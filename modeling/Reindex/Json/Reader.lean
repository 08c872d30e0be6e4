import Reindex.Json.Error
import Reindex.Text.Basic

/-!
# Reading JSON

A reader takes the bytes ahead and gives a value with the bytes after it, or a fault.  `readValue`
follows the grammar: blanks are space, tab, line feed and carriage return; at most `maxDepth`
containers may be open at once; the string between two quotes is checked for UTF-8 as a whole.

Nesting is the recursion of `readValue`.  The loops over elements and members are written for any
reader of one element, with a bound on their number that the length of the text always meets.
-/

namespace Reindex.Json

/-- Reads a value off the front of the bytes ahead and gives it with the bytes after it. -/
abbrev Reader (α : Type) := Bytes → Except Fault (α × Bytes)

/-- A byte as the ASCII character it stands for; the characters of other bytes mean nothing here. -/
def glyph (b : UInt8) : Char := Char.ofUInt8 b

/-- A fault reported after the bytes read so far. -/
def faultAt {α : Type} (cause : Cause) (rest : Bytes) : Except Fault α :=
  .error ⟨cause, rest.length⟩

/-- A fault reported after the byte ahead, or at the end of the text. -/
def faultPast {α : Type} (cause : Cause) (ahead : Bytes) : Except Fault α :=
  .error ⟨cause, ahead.length - 1⟩

/-- Space, tab, line feed or carriage return. -/
def isBlankByte (b : UInt8) : Bool := b == 0x20 || b == 0x09 || b == 0x0A || b == 0x0D

/-- The bytes after the blanks ahead. -/
def skipBlank (s : Bytes) : Bytes := s.dropWhile isBlankByte

/-- An ASCII digit. -/
def isDigitByte (b : UInt8) : Bool := 0x30 ≤ b && b ≤ 0x39

/-- The value of an ASCII digit. -/
def digitValue (b : UInt8) : Nat := b.toNat - 0x30

/-! ## Names -/

/-- The rest of the name of a constant. -/
def readName {α : Type} (value : α) : List Char → Reader α
  | [], s => .ok (value, s)
  | _ :: _, [] => faultAt .eofValue []
  | c :: cs, b :: r => if glyph b = c then readName value cs r else faultAt .expectedIdent r

/-! ## Numbers -/

/-- The digits ahead. -/
def readDigits (s : Bytes) : List Nat × Bytes :=
  ((s.takeWhile isDigitByte).map digitValue, s.dropWhile isDigitByte)

/-- The integer part: a zero alone, or digits that do not start with one. -/
def readWhole : Reader (List Nat)
  | [] => faultAt .eofValue []
  | b :: r =>
    if glyph b = '0' then
      match r with
      | d :: _ => if isDigitByte d then faultPast .invalidNumber r else .ok ([0], r)
      | [] => .ok ([0], r)
    else if isDigitByte b then
      let (ds, rest) := readDigits r
      .ok (digitValue b :: ds, rest)
    else faultAt .invalidNumber r

/-- The fraction, if a point is ahead: at least one digit. -/
def readFraction : Reader (Option (List Nat))
  | [] => .ok (none, [])
  | b :: r =>
    if glyph b = '.' then
      match readDigits r with
      | ([], []) => faultAt .eofValue []
      | ([], rest) => faultPast .invalidNumber rest
      | (ds, rest) => .ok (some ds, rest)
    else .ok (none, b :: r)

/-- The sign of an exponent; `true` means upward. -/
def readExponentSign : Bytes → Bool × Bytes
  | [] => (true, [])
  | b :: r =>
    if glyph b = '+' then (true, r) else if glyph b = '-' then (false, r) else (true, b :: r)

/-- The exponent, if its letter is ahead: an optional sign and at least one digit. -/
def readExponent : Reader (Option (Bool × List Nat))
  | [] => .ok (none, [])
  | b :: r =>
    if glyph b = 'e' || glyph b = 'E' then
      let (up, s) := readExponentSign r
      match s with
      | [] => faultAt .eofValue []
      | d :: t =>
        if isDigitByte d then
          let (ds, rest) := readDigits t
          .ok (some (up, digitValue d :: ds), rest)
        else faultAt .invalidNumber t
    else .ok (none, b :: r)

/-- A number after its sign. -/
def readUnsigned (negative : Bool) (s : Bytes) : Except Fault (Json × Bytes) := do
  let (whole, s) ← readWhole s
  let (fraction, s) ← readFraction s
  let (exponent, rest) ← readExponent s
  let literal : Number.Literal := ⟨negative, whole, fraction, exponent⟩
  match literal.value? with
  | some n => .ok (.number n, rest)
  | none => .error ⟨.numberOutOfRange, rest.length + literal.overflow?.getD 0⟩

/-! ## Strings -/

/-- Where a string reader stands between two bytes: in plain content, after a backslash, within the
four digits of an escaped code unit (`lead` is the high surrogate it has to complete, `seen` counts
the digits read, `code` is their value as long as they are hexadecimal), or before the backslash and
the letter of the escape that has to follow the high surrogate `lead`. -/
inductive StringMode where
  | plain
  | escape
  | hex (lead : Option Nat) (seen : Nat) (code : Option Nat)
  | backslash (lead : Nat)
  | letter (lead : Nat)
  deriving DecidableEq, Repr

/-- What one byte of a string leads to: the end, or a mode and the content so far, latest byte
first. -/
inductive StringStep where
  | closed
  | more (mode : StringMode) (content : Bytes)
  deriving DecidableEq, Repr

/-- The four digits of a code unit have been read. -/
def finishHex (content : Bytes) (lead : Option Nat) : Option Nat → Except Cause StringStep
  | none => .error .invalidEscape
  | some n =>
    match lead with
    | some high =>
      if Text.isLowSurrogate n then
        let c := Char.ofNat (Text.pairCode high n)
        .ok (.more .plain ((Utf8.encodeChar c).reverse ++ content))
      else .error .loneSurrogate
    | none =>
      if Text.isLowSurrogate n then .error .loneSurrogate
      else if Text.isHighSurrogate n then .ok (.more (.backslash n) content)
      else .ok (.more .plain ((Utf8.encodeChar (Char.ofNat n)).reverse ++ content))

/-- One byte of a string. -/
def stringStep (content : Bytes) (mode : StringMode) (b : UInt8) : Except Cause StringStep :=
  match mode with
  | .plain =>
    if glyph b = '"' then .ok .closed
    else if glyph b = '\\' then .ok (.more .escape content)
    else if b < 0x20 then .error .controlCharacter
    else .ok (.more .plain (b :: content))
  | .escape =>
    match glyph b with
    | '"' | '\\' | '/' => .ok (.more .plain (b :: content))
    | 'b' => .ok (.more .plain (0x08 :: content))
    | 'f' => .ok (.more .plain (0x0C :: content))
    | 'n' => .ok (.more .plain (0x0A :: content))
    | 'r' => .ok (.more .plain (0x0D :: content))
    | 't' => .ok (.more .plain (0x09 :: content))
    | 'u' => .ok (.more (.hex none 0 (some 0)) content)
    | _ => .error .invalidEscape
  | .hex lead seen code =>
    let code := code.bind fun n => (Text.hexValue? (glyph b)).map (n * 16 + ·)
    if seen < 3 then .ok (.more (.hex lead (seen + 1) code) content)
    else finishHex content lead code
  | .backslash lead =>
    if glyph b = '\\' then .ok (.more (.letter lead) content)
    else .error .unexpectedEndOfHexEscape
  | .letter lead =>
    if glyph b = 'u' then .ok (.more (.hex (some lead) 0 (some 0)) content)
    else .error .unexpectedEndOfHexEscape

/-- The text of a string's content.  Content that is not UTF-8 is reported before as many bytes as
come after its well-formed part. -/
def finishString (content rest : Bytes) : Except Fault (String × Bytes) :=
  match Utf8.decode? content with
  | some s => .ok (s, rest)
  | none => .error ⟨.invalidUnicode, rest.length + (content.length - Utf8.validLength content)⟩

/-- A string after its opening quote. -/
def readString (content : Bytes) (mode : StringMode) : Reader String
  | [] => faultAt .eofString []
  | b :: r =>
    match stringStep content mode b with
    | .error cause => faultAt cause r
    | .ok .closed => finishString content.reverse r
    | .ok (.more mode content) => readString content mode r

/-! ## Values -/

/-- A value that is no container, given its first byte. -/
def readScalar (b : UInt8) (r : Bytes) : Except Fault (Json × Bytes) :=
  match glyph b with
  | 'n' => readName .null ['u', 'l', 'l'] r
  | 't' => readName (.bool true) ['r', 'u', 'e'] r
  | 'f' => readName (.bool false) ['a', 'l', 's', 'e'] r
  | '"' => do
    let (s, rest) ← readString [] .plain r
    .ok (.string s, rest)
  | '-' => readUnsigned true r
  | _ => if isDigitByte b then readUnsigned false (b :: r) else faultPast .expectedValue (b :: r)

/-- The elements of an array that has at least one, up to its end. -/
def readItems {α : Type} (item : Reader α) : (bound : Nat) → Reader (List α)
  | 0, s => faultAt .boundExceeded s
  | bound + 1, s => do
    let (x, s) ← item s
    match skipBlank s with
    | [] => faultAt .eofList []
    | b :: r =>
      if glyph b = ']' then .ok ([x], r)
      else if glyph b = ',' then
        match skipBlank r with
        | [] => faultAt .eofValue []
        | c :: t =>
          if glyph c = ']' then faultPast .trailingComma (c :: t)
          else do
            let (xs, rest) ← readItems item bound (c :: t)
            .ok (x :: xs, rest)
      else faultPast .expectedListCommaOrEnd (b :: r)

/-- An array after its opening bracket. -/
def readArray {α : Type} (item : Reader α) (bound : Nat) (s : Bytes) :
    Except Fault (List α × Bytes) :=
  match skipBlank s with
  | [] => faultAt .eofList []
  | b :: r => if glyph b = ']' then .ok ([], r) else readItems item bound (b :: r)

/-- A member after the opening quote of its name. -/
def readMember {α : Type} (value : Reader α) (s : Bytes) :
    Except Fault ((String × α) × Bytes) := do
  let (name, s) ← readString [] .plain s
  match skipBlank s with
  | [] => faultAt .eofObject []
  | b :: r =>
    if glyph b = ':' then do
      let (v, rest) ← value r
      .ok ((name, v), rest)
    else faultPast .expectedColon (b :: r)

/-- The members of an object that has at least one, from the opening quote of the first name. -/
def readMembers {α : Type} (value : Reader α) :
    (bound : Nat) → Reader (List (String × α))
  | 0, s => faultAt .boundExceeded s
  | bound + 1, s => do
    let (m, s) ← readMember value s
    match skipBlank s with
    | [] => faultAt .eofObject []
    | b :: r =>
      if glyph b = '\x7d' then .ok ([m], r)
      else if glyph b = ',' then
        match skipBlank r with
        | [] => faultAt .eofValue []
        | c :: t =>
          if glyph c = '"' then do
            let (ms, rest) ← readMembers value bound t
            .ok (m :: ms, rest)
          else if glyph c = '\x7d' then faultPast .trailingComma (c :: t)
          else faultPast .keyMustBeString (c :: t)
      else faultPast .expectedObjectCommaOrEnd (b :: r)

/-- An object after its opening brace, as its members in reading order. -/
def readObject {α : Type} (value : Reader α) (bound : Nat) (s : Bytes) :
    Except Fault (List (String × α) × Bytes) :=
  match skipBlank s with
  | [] => faultAt .eofObject []
  | b :: r =>
    if glyph b = '"' then readMembers value bound r
    else if glyph b = '\x7d' then .ok ([], r)
    else faultPast .keyMustBeString (b :: r)

/-- The number of containers that may be open at once. -/
def maxDepth : Nat := 127

/-- A value, with at most `depth` containers open at once. -/
def readValue (bound : Nat) : (depth : Nat) → Reader Json
  | depth, s =>
    match skipBlank s with
    | [] => faultAt .eofValue []
    | b :: r =>
      if glyph b = '[' then
        match depth with
        | 0 => faultPast .recursionLimit (b :: r)
        | depth + 1 => do
          let (xs, rest) ← readArray (readValue bound depth) bound r
          .ok (.array xs, rest)
      else if glyph b = '\x7b' then
        match depth with
        | 0 => faultPast .recursionLimit (b :: r)
        | depth + 1 => do
          let (pairs, rest) ← readObject (readValue bound depth) bound r
          .ok (ofPairs pairs, rest)
      else readScalar b r

/-! ## Values of one kind -/

/-- A value of another kind than the expected one: a container is reported where it starts, a scalar
after its last byte, unless it has a fault of its own. -/
def readMismatch {α : Type} (expected : Expected) (b : UInt8) (r : Bytes) :
    Except Fault (α × Bytes) :=
  if glyph b = '[' then faultAt (.invalidType .sequence expected) (b :: r)
  else if glyph b = '\x7b' then faultAt (.invalidType .map expected) (b :: r)
  else do
    let (v, rest) ← readScalar b r
    faultAt (.invalidType (.scalar v) expected) rest

/-- An object and nothing else. -/
def readMap (bound : Nat) (depth : Nat) (s : Bytes) : Except Fault (Members × Bytes) :=
  match skipBlank s with
  | [] => faultAt .eofValue []
  | b :: r =>
    if glyph b = '\x7b' then
      match depth with
      | 0 => faultPast .recursionLimit (b :: r)
      | depth + 1 => do
        let (pairs, rest) ← readObject (readValue bound depth) bound r
        .ok (Keyed.ofPairs pairs, rest)
    else readMismatch .map b r

/-- An array of objects and nothing else. -/
def readMaps (bound : Nat) (depth : Nat) (s : Bytes) : Except Fault (List Members × Bytes) :=
  match skipBlank s with
  | [] => faultAt .eofValue []
  | b :: r =>
    if glyph b = '[' then
      match depth with
      | 0 => faultPast .recursionLimit (b :: r)
      | depth + 1 => readArray (readMap bound depth) bound r
    else readMismatch .sequence b r

/-! ## Whole texts -/

/-- What a reader makes of a whole text: after the value only blanks may follow. -/
def document {α : Type} (reader : Reader α) (text : Bytes) : Except Error α :=
  let result : Except Fault α := do
    let (v, rest) ← reader text
    match skipBlank rest with
    | [] => .ok v
    | b :: r => faultPast .trailingCharacters (b :: r)
  result.mapError (Fault.error text)

/-- The value that a text holds. -/
def parse (text : Bytes) : Except Error Json := document (readValue text.length maxDepth) text

/-- The members of the object that a text holds. -/
def parseMap (text : Bytes) : Except Error Members := document (readMap text.length maxDepth) text

/-- The objects in the array that a text holds, each as its members. -/
def parseMaps (text : Bytes) : Except Error (List Members) :=
  document (readMaps text.length maxDepth) text

end Reindex.Json
