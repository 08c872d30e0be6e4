import Reindex.Json.Printer
import Reindex.Text.Quoted

/-!
# What is wrong with a JSON text

A fault has a cause and a place.  While reading, the place is kept as the number of bytes that come
after it, so that no reader has to carry a position; `Fault.error` turns it into the offset that the
message tells as a line and a column.  Columns count bytes.
-/

namespace Reindex.Json

/-- What was found where a value of another kind was expected. -/
inductive Found where
  | scalar (value : Json)
  | sequence
  | map
  deriving Repr, BEq

/-- What was expected instead. -/
inductive Expected where
  | sequence
  | map
  deriving Repr, DecidableEq

/-- What is wrong with a text. -/
inductive Cause where
  | eofValue
  | eofList
  | eofObject
  | eofString
  | expectedValue
  | expectedIdent
  | expectedColon
  | expectedListCommaOrEnd
  | expectedObjectCommaOrEnd
  | keyMustBeString
  | trailingComma
  | trailingCharacters
  | invalidNumber
  | numberOutOfRange
  | invalidEscape
  | unexpectedEndOfHexEscape
  | loneSurrogate
  | controlCharacter
  | invalidUnicode
  | recursionLimit
  | invalidType (found : Found) (expected : Expected)
  /-- The reader's bound on the number of elements was met; it never is when the bound is at least
  the length of the text. -/
  | boundExceeded
  deriving Repr, BEq

/-- What was found, in words. -/
def Found.text : Found → String
  | .scalar .null => "null"
  | .scalar (.bool b) => "boolean " ++ Text.backticked (if b then "true" else "false")
  | .scalar (.number (.int n)) =>
    "integer " ++ Text.backticked (String.ofList (Number.intChars n))
  | .scalar (.number (.float f)) =>
    "floating point " ++ Text.backticked (String.ofList (Number.floatChars f))
  | .scalar (.string s) => "string " ++ Text.quoted s
  | .scalar (.array _) | .sequence => "sequence"
  | .scalar (.object _) | .map => "map"

/-- What was expected, in words. -/
def Expected.text : Expected → String
  | .sequence => "a sequence"
  | .map => "a map"

/-- A cause in words. -/
def Cause.text : Cause → String
  | .eofValue => "EOF while parsing a value"
  | .eofList => "EOF while parsing a list"
  | .eofObject => "EOF while parsing an object"
  | .eofString => "EOF while parsing a string"
  | .expectedValue => "expected value"
  | .expectedIdent => "expected ident"
  | .expectedColon => "expected " ++ Text.backticked ":"
  | .expectedListCommaOrEnd => "expected " ++ Text.backticked "," ++ " or " ++ Text.backticked "]"
  | .expectedObjectCommaOrEnd =>
    "expected " ++ Text.backticked "," ++ " or " ++ Text.backticked "\x7d"
  | .keyMustBeString => "key must be a string"
  | .trailingComma => "trailing comma"
  | .trailingCharacters => "trailing characters"
  | .invalidNumber => "invalid number"
  | .numberOutOfRange => "number out of range"
  | .invalidEscape => "invalid escape"
  | .unexpectedEndOfHexEscape => "unexpected end of hex escape"
  | .loneSurrogate => "lone leading surrogate in hex escape"
  | .controlCharacter => "control character (\\u0000-\\u001F) found while parsing a string"
  | .invalidUnicode => "invalid unicode code point"
  | .recursionLimit => "recursion limit exceeded"
  | .invalidType found expected =>
    "invalid type: " ++ found.text ++ ", expected " ++ expected.text
  | .boundExceeded => "too many elements"

/-- A cause, and how many bytes of the text come after the place it is reported at. -/
structure Fault where
  cause : Cause
  left : Nat
  deriving Repr, BEq

/-- A cause and the offset it is reported at, in the text it was found in. -/
structure Error where
  cause : Cause
  line : Nat
  column : Nat
  deriving Repr, BEq

/-- The line of an offset, from one, and its column: the bytes after the last line break before
it. -/
def position (text : Bytes) (offset : Nat) : Nat × Nat :=
  let before := text.take offset
  (1 + before.count 0x0A, (before.reverse.takeWhile (· != 0x0A)).length)

/-- A fault of `text`, placed in lines and columns. -/
def Fault.error (text : Bytes) (f : Fault) : Error :=
  let (line, column) := position text (text.length - f.left)
  ⟨f.cause, line, column⟩

/-- The message of an error. -/
def Error.message (e : Error) : String :=
  e.cause.text ++ " at line " ++ toString e.line ++ " column " ++ toString e.column

end Reindex.Json
