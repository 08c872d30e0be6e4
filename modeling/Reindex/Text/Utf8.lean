/-!
# UTF-8

Characters and the bytes that spell them.

Encoding is arithmetic on the code point.  Decoding is a machine that takes one byte at a time and
keeps the sequence it is in the middle of; what it puts out is, in order, each character it
completed and a mark for each maximal stretch of bytes that no character starts with.  Three views
of that output are used: the text when there is no mark (`decode?`), the text with U+FFFD at each
mark (`decodeLossy`), and the number of bytes before the first mark (`validLength`).
-/

namespace Reindex

/-- A sequence of bytes, as a file or a message body holds it. -/
abbrev Bytes := List UInt8

namespace Utf8

/-- A continuation byte: the six lowest bits of `n`. -/
def continuation (n : Nat) : UInt8 := UInt8.ofNat (0x80 + n % 64)

/-- The bytes of one character. -/
def encodeChar (c : Char) : Bytes :=
  let n := c.toNat
  if n < 0x80 then [UInt8.ofNat n]
  else if n < 0x800 then [UInt8.ofNat (0xC0 + n / 64), continuation n]
  else if n < 0x10000 then
    [UInt8.ofNat (0xE0 + n / 4096), continuation (n / 64), continuation n]
  else
    [UInt8.ofNat (0xF0 + n / 262144), continuation (n / 4096), continuation (n / 64),
      continuation n]

/-- The bytes of a sequence of characters. -/
def encode (cs : List Char) : Bytes := cs.flatMap encodeChar

/-- A character whose first bytes have been read: how many bytes it still lacks, the range the next
one has to lie in, and the bits read so far. -/
structure Partial where
  owed : Nat
  low : Nat
  high : Nat
  code : Nat
  deriving DecidableEq, Repr

/-- What the first byte of a longer character announces.  The narrower ranges rule out overlong
forms, surrogates and code points above U+10FFFF; other bytes start no character. -/
def lead? (b : Nat) : Option Partial :=
  if b < 0xC2 then none
  else if b < 0xE0 then some ⟨1, 0x80, 0xBF, b - 0xC0⟩
  else if b = 0xE0 then some ⟨2, 0xA0, 0xBF, 0⟩
  else if b = 0xED then some ⟨2, 0x80, 0x9F, 0xD⟩
  else if b < 0xF0 then some ⟨2, 0x80, 0xBF, b - 0xE0⟩
  else if b = 0xF0 then some ⟨3, 0x90, 0xBF, 0⟩
  else if b < 0xF4 then some ⟨3, 0x80, 0xBF, b - 0xF0⟩
  else if b = 0xF4 then some ⟨3, 0x80, 0x8F, 4⟩
  else none

/-- The decoder between two bytes: what it has put out, latest first (`none` marks malformed bytes),
and the character it is in the middle of. -/
structure Decoder where
  done : List (Option Char)
  current : Option Partial
  deriving DecidableEq, Repr

namespace Decoder

/-- A byte that cannot continue the current character, or comes between characters. -/
def start (d : Decoder) (b : Nat) : Decoder :=
  if b < 0x80 then ⟨some (Char.ofNat b) :: d.done, none⟩
  else match lead? b with
    | some p => ⟨d.done, some p⟩
    | none => ⟨none :: d.done, none⟩

/-- One byte.  A byte that cannot continue the current character ends it as malformed and is then
looked at afresh. -/
def feed (d : Decoder) (byte : UInt8) : Decoder :=
  let b := byte.toNat
  match d.current with
  | none => d.start b
  | some p =>
    if p.low ≤ b ∧ b ≤ p.high then
      let code := p.code * 64 + b % 64
      if p.owed ≤ 1 then ⟨some (Char.ofNat code) :: d.done, none⟩
      else ⟨d.done, some ⟨p.owed - 1, 0x80, 0xBF, code⟩⟩
    else start ⟨none :: d.done, none⟩ b

/-- The whole output, in order; a character cut off by the end of the input is malformed. -/
def finish (d : Decoder) : List (Option Char) :=
  match d.current with
  | none => d.done.reverse
  | some _ => (none :: d.done).reverse

end Decoder

/-- The characters that `bs` spells, with `none` for each maximal stretch that spells none. -/
def decode (bs : Bytes) : List (Option Char) :=
  (bs.foldl Decoder.feed ⟨[], none⟩).finish

/-- The text that `bs` spells, if all of it is well formed. -/
def decode? (bs : Bytes) : Option String :=
  ((decode bs).mapM id).map String.ofList

/-- The text that `bs` spells, with U+FFFD for each malformed stretch. -/
def decodeLossy (bs : Bytes) : String :=
  String.ofList ((decode bs).map (·.getD '\uFFFD'))

/-- The length of the longest well-formed part at the start of `bs`. -/
def validLength (bs : Bytes) : Nat :=
  ((decode bs).takeWhile (·.isSome)).foldl
    (fun n c => n + ((c.map encodeChar).getD []).length) 0

end Utf8

/-- The UTF-8 bytes of a text. -/
def utf8 (s : String) : Bytes := Utf8.encode s.toList

end Reindex
