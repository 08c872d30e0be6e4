import Reindex.Json.Number
import Reindex.Text.Basic
import Reindex.Text.Utf8

/-!
# The wire form of JSON

The one text of a value that is sent and shown: no blanks, members in the order of their names, and
in strings only the escapes that the format demands.
-/

namespace Reindex.Json

/-- One character inside a string: the quote, the backslash and the control characters below U+0020
are escaped, all else stands for itself. -/
def escapeChar (c : Char) : List Char :=
  if c = '"' then ['\\', '"']
  else if c = '\\' then ['\\', '\\']
  else if 0x20 ≤ c.toNat then [c]
  else if c.toNat = 0x08 then ['\\', 'b']
  else if c.toNat = 0x0C then ['\\', 'f']
  else if c = '\n' then ['\\', 'n']
  else if c = '\r' then ['\\', 'r']
  else if c = '\t' then ['\\', 't']
  else ['\\', 'u', '0', '0', Text.hexDigit (c.toNat / 16), Text.hexDigit c.toNat]

/-- A string between quotes. -/
def stringChars (s : String) : List Char := '"' :: s.toList.flatMap escapeChar ++ ['"']

mutual

/-- The characters of a value. -/
def chars : Json → List Char
  | .null => ['n', 'u', 'l', 'l']
  | .bool true => ['t', 'r', 'u', 'e']
  | .bool false => ['f', 'a', 'l', 's', 'e']
  | .number n => n.chars
  | .string s => stringChars s
  | .array xs => '[' :: itemsChars xs ++ [']']
  | .object ms => '\x7b' :: membersChars ms ++ ['\x7d']

/-- The elements of an array, with commas between them. -/
def itemsChars : List Json → List Char
  | [] => []
  | x :: rest => x.chars ++ moreItemsChars rest

/-- Further elements, each after a comma. -/
def moreItemsChars : List Json → List Char
  | [] => []
  | x :: rest => ',' :: x.chars ++ moreItemsChars rest

/-- The members of an object, with commas between them. -/
def membersChars : List (String × Json) → List Char
  | [] => []
  | (name, value) :: rest => stringChars name ++ ':' :: value.chars ++ moreMembersChars rest

/-- Further members, each after a comma. -/
def moreMembersChars : List (String × Json) → List Char
  | [] => []
  | (name, value) :: rest =>
    ',' :: stringChars name ++ ':' :: value.chars ++ moreMembersChars rest

end

/-- The wire text of a value. -/
def wire (v : Json) : String := String.ofList v.chars

/-- The bytes of the wire text. -/
def wireBytes (v : Json) : Bytes := Utf8.encode v.chars

end Reindex.Json
