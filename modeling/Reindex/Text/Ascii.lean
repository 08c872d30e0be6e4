import Reindex.Text.Basic
import Reindex.Text.Utf8

/-!
# Text spelled in ASCII

Percent-encoding writes a byte as `%` and two hexadecimal digits.  Encoding takes the class of
characters that may stand for themselves; decoding leaves alone a `%` that no two digits follow.

Punycode spells text of any characters with letters, digits and hyphens.  The ASCII characters come
first, as they are; the others follow in increasing order as the differences of their positions,
each difference a number of base 36 whose digits end where one falls below a threshold.  The
thresholds adapt to the size of the differences seen.
-/

namespace Reindex.Text

/-- One byte as `%` and two digits. -/
def percentByte (b : UInt8) : List Char :=
  ['%', upperHexDigit (b.toNat / 16), upperHexDigit b.toNat]

/-- One character: itself if it may stand, otherwise its UTF-8 bytes one by one. -/
def percentChar (keep : Char → Bool) (c : Char) : List Char :=
  if keep c then [c] else (Utf8.encodeChar c).flatMap percentByte

/-- A text in which only the characters of `keep` stand for themselves. -/
def percentEncode (keep : Char → Bool) (cs : List Char) : List Char :=
  cs.flatMap (percentChar keep)

/-- The bytes that a percent-encoded text stands for. -/
def percentDecode : List Char → Bytes
  | [] => []
  | '%' :: a :: b :: rest =>
    match hexValue? a, hexValue? b with
    | some high, some low => UInt8.ofNat (high * 16 + low) :: percentDecode rest
    | _, _ => UInt8.ofNat '%'.toNat :: percentDecode (a :: b :: rest)
  | c :: rest => Utf8.encodeChar c ++ percentDecode rest

namespace Punycode

/-- The digits of base 36. -/
def digitChar (d : Nat) : Char :=
  if d < 26 then Char.ofNat ('a'.toNat + d) else Char.ofNat ('0'.toNat + d - 26)

/-- The threshold of the digit at position `k`, counted in steps of 36. -/
def threshold (k bias : Nat) : Nat :=
  if k ≤ bias then 1 else if bias + 26 ≤ k then 26 else k - bias

/-- The digits of a difference, the lowest first.  `steps` bounds their number. -/
def digits (bias : Nat) : (steps k n : Nat) → List Char
  | 0, _, _ => []
  | steps + 1, k, n =>
    let t := threshold k bias
    if n < t then [digitChar n]
    else digitChar (t + (n - t) % (36 - t)) :: digits bias steps (k + 36) ((n - t) / (36 - t))

/-- The bias that a scaled difference leads to. -/
def bias : (steps k delta : Nat) → Nat
  | 0, k, _ => k
  | steps + 1, k, delta =>
    if 455 < delta then bias steps (k + 36) (delta / 35) else k + 36 * delta / (delta + 38)

/-- The bias after a difference, when `count` characters have been placed. -/
def adapt (delta count : Nat) (first : Bool) : Nat :=
  let scaled := if first then delta / 700 else delta / 2
  bias (scaled + scaled / count) 0 (scaled + scaled / count)

/-- The encoder between two characters. -/
structure Encoder where
  out : List Char
  delta : Nat
  bias : Nat
  count : Nat

/-- Looks at one character of the text while those of code point `n` are placed. -/
def Encoder.visit (basic n : Nat) (e : Encoder) (c : Char) : Encoder :=
  if c.toNat < n then { e with delta := e.delta + 1 }
  else if c.toNat = n then
    { out := e.out ++ digits e.bias (e.delta + 1) 36 e.delta
      delta := 0
      bias := adapt e.delta (e.count + 1) (e.count == basic)
      count := e.count + 1 }
  else e

/-- Places the code points of `points`, which increase; `n` is the least one not yet passed. -/
def Encoder.place (text : List Char) (basic : Nat) : List Nat → (n : Nat) → Encoder → Encoder
  | [], _, e => e
  | m :: rest, n, e =>
    let e := text.foldl (visit basic m) { e with delta := e.delta + (m - n) * (e.count + 1) }
    place text basic rest (m + 1) { e with delta := e.delta + 1 }

/-- A text in letters, digits and hyphens. -/
def encode (text : List Char) : List Char :=
  let basic := text.filter (·.toNat < 0x80)
  let points := ((text.map Char.toNat).filter (0x80 ≤ ·)).mergeSort.eraseDups
  let start : Encoder := ⟨[], 0, 72, basic.length⟩
  basic ++ (if basic.isEmpty then [] else ['-']) ++
    (Encoder.place text basic.length points 0x80 start).out

/-- The value of a digit of base 36, in either case. -/
def digitValue? (c : Char) : Option Nat :=
  if c.isAlpha then some (c.toLower.toNat - 'a'.toNat)
  else if c.isDigit then some (c.toNat - '0'.toNat + 26)
  else none

/-- The decoder between two digits. -/
structure Decoder where
  out : List Char
  /-- The code point that was placed last. -/
  point : Nat
  /-- The place after the character that was placed last, where a difference starts. -/
  start : Nat
  /-- The start and what has been read of the difference. -/
  value : Nat
  weight : Nat
  k : Nat
  bias : Nat

/-- Takes one digit; none if there is no character that the difference leads to. -/
def Decoder.take (d : Decoder) (c : Char) : Option Decoder := do
  let digit ← digitValue? c
  let value := d.value + digit * d.weight
  let t := threshold d.k d.bias
  if t ≤ digit then some { d with value, weight := d.weight * (36 - t), k := d.k + 36 }
  else
    let count := d.out.length + 1
    let point := d.point + value / count
    let place := value % count
    if point.isValidChar then some {
      out := d.out.insertIdx place (Char.ofNat point)
      point
      start := place + 1
      value := place + 1
      weight := 1
      k := 36
      bias := adapt (value - d.start) count (d.start == 0) }
    else none

/-- The text that letters, digits and hyphens spell; none if they break off within a difference. -/
def decode (cs : List Char) : Option (List Char) := do
  let (extended, basic) := cs.reverse.span (· != '-')
  let start : Decoder := ⟨basic.tail.reverse, 0x80, 0, 0, 1, 36, 72⟩
  let d ← extended.reverse.foldlM Decoder.take start
  if d.k = 36 then some d.out else none

end Punycode

end Reindex.Text
