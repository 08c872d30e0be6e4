import Reindex.Text.Ascii
import Reindex.Text.Basic

/-!
# Hosts of URLs

A host is an IPv6 address in brackets, an IPv4 address, which may be written with fewer than four
numbers and in octal or hexadecimal, or a name.  Names are compared in ASCII.
-/

namespace Reindex.Url

/-- What is wrong with a text that should be a URL. -/
inductive Error where
  | noBase
  | emptyHost
  | invalidPort
  | invalidIpv4
  | invalidIpv6
  | invalidDomain
  | invalidOpaqueHost
  | notABase
  deriving DecidableEq, Repr

/-- The message of an error. -/
def Error.message : Error → String
  | .noBase => "relative URL without a base"
  | .emptyHost => "empty host"
  | .invalidPort => "invalid port number"
  | .invalidIpv4 => "invalid IPv4 address"
  | .invalidIpv6 => "invalid IPv6 address"
  | .invalidDomain => "invalid international domain name"
  | .invalidOpaqueHost => "invalid domain character"
  | .notABase => "relative URL with a cannot-be-a-base base"

/-- The parts between the separators `sep`: always at least one. -/
def splitOn (sep : Char) : List Char → List (List Char)
  | [] => [[]]
  | c :: rest =>
    if c = sep then [] :: splitOn sep rest
    else match splitOn sep rest with
      | first :: others => (c :: first) :: others
      | [] => [[c]]

/-! ## IPv4 -/

/-- One number of an IPv4 address: hexadecimal after `0x`, octal after another `0`. -/
def ipv4Number? : List Char → Option Nat
  | [] => none
  | '0' :: 'x' :: digits | '0' :: 'X' :: digits => Text.numeral? 16 digits
  | '0' :: d :: digits => Text.numeral? 8 (d :: digits)
  | digits => Text.numeral? 10 digits

/-- Does a name end in a number, so that it has to be an IPv4 address? -/
def endsInNumber (name : List Char) : Bool :=
  let last := match (splitOn '.' name).reverse with
    | [] :: l :: _ => l
    | l :: _ => l
    | [] => []
  !last.isEmpty && (last.all Char.isDigit || (ipv4Number? last).isSome)

/-- The address of up to four numbers: all but the last are bytes, the last fills what is left. -/
def ipv4Value? (numbers : List Nat) : Option Nat :=
  match numbers.reverse with
  | [] => none
  | last :: before =>
    let unit := Nat.pow 256 (4 - before.length)
    if before.any (255 < ·) || unit ≤ last then none
    else some (before.reverse.foldl (fun n b => n * 256 + b) 0 * unit + last)

/-- An IPv4 address, as its number. -/
def ipv4? (name : List Char) : Option Nat :=
  let parts := splitOn '.' name
  let parts := if parts.getLast? = some [] then parts.dropLast else parts
  if 4 < parts.length then none else (parts.mapM ipv4Number?).bind ipv4Value?

/-- Four decimal numbers with points between them. -/
def ipv4Text (n : Nat) : String :=
  let bytes := [n / 0x1000000, n / 0x10000 % 0x100, n / 0x100 % 0x100, n % 0x100]
  String.intercalate "." (bytes.map toString)

/-! ## IPv6 -/

/-- One piece of an IPv6 address: one to four hexadecimal digits. -/
def ipv6Piece? (cs : List Char) : Option Nat :=
  if cs.isEmpty || 4 < cs.length then none else Text.numeral? 16 cs

/-- The byte of a dotted address inside an IPv6 address: decimal, without needless zeros. -/
def dottedByte? : List Char → Option Nat
  | [] | '0' :: _ :: _ => none
  | cs => (Text.numeral? 10 cs).filter (· < 256)

/-- A dotted address as the last two pieces of an IPv6 address. -/
def dottedPieces? (cs : List Char) : Option (List Nat) :=
  match (splitOn '.' cs).mapM dottedByte? with
  | some [a, b, c, d] => some [a * 256 + b, c * 256 + d]
  | _ => none

/-- The pieces between colons; only the last may be a dotted address, if `dotted` allows it. -/
def ipv6Pieces? (dotted : Bool) : List (List Char) → Option (List Nat)
  | [] => some []
  | [part] =>
    if dotted && part.contains '.' then dottedPieces? part else (ipv6Piece? part).map ([·])
  | part :: rest => do
    let piece ← ipv6Piece? part
    let pieces ← ipv6Pieces? dotted rest
    some (piece :: pieces)

/-- The texts before and after the first double colon, if there is one. -/
def cutDoubleColon? : List Char → Option (List Char × List Char)
  | [] => none
  | ':' :: ':' :: rest => some ([], rest)
  | c :: rest => (cutDoubleColon? rest).map fun (before, after) => (c :: before, after)

/-- The pieces of a text that may be empty. -/
def ipv6Side? (dotted : Bool) (cs : List Char) : Option (List Nat) :=
  if cs.isEmpty then some [] else ipv6Pieces? dotted (splitOn ':' cs)

/-- The eight pieces of an IPv6 address; a double colon stands for at least one zero. -/
def ipv6? (cs : List Char) : Option (List Nat) := do
  match cutDoubleColon? cs with
  | some (before, after) =>
    let left ← ipv6Side? false before
    let right ← ipv6Side? true after
    if left.length + right.length ≤ 7 then
      some (left ++ List.replicate (8 - left.length - right.length) 0 ++ right)
    else none
  | none => (ipv6Side? true cs).filter (·.length == 8)

/-- The length of the run of zeros that starts at each place. -/
def zeroRuns : List Nat → List Nat
  | [] => []
  | n :: rest =>
    let runs := zeroRuns rest
    (if n = 0 then 1 + runs.headD 0 else 0) :: runs

/-- Pieces with colons between them. -/
def piecesText (pieces : List Nat) : String :=
  String.intercalate ":" (pieces.map fun n => String.ofList (Nat.toDigits 16 n))

/-- An IPv6 address: the first of its longest runs of at least two zeros is left out. -/
def ipv6Text (pieces : List Nat) : String :=
  let runs := zeroRuns pieces
  let longest := runs.foldl max 0
  if longest < 2 then piecesText pieces
  else
    let start := runs.idxOf longest
    piecesText (pieces.take start) ++ "::" ++ piecesText (pieces.drop (start + longest))

/-! ## Names -/

/-- A character that no name may hold. -/
def isForbiddenInDomain (c : Char) : Bool :=
  c.toNat ≤ 0x20 || c.toNat == 0x7F || "%#/:<>?@[\\]^|".toList.contains c || c == '\uFFFD'

/-- A character that no host of another scheme may hold. -/
def isForbiddenInHost (c : Char) : Bool :=
  "\x00\t\n\r #/:<>?@[\\]^|".toList.contains c

/-- How names are spelled in ASCII; none for a text that is not a name.  The rules come with tables
that cover all of Unicode, so a reader of URLs is given the mapping. -/
abbrev Names := String → Option String

/-- The host between its separators, for the schemes that have a grammar of their own. -/
def domainHost (names : Names) (cs : List Char) : Except Error String :=
  match (names (Utf8.decodeLossy (Text.percentDecode cs))).map String.toList with
  | none => .error .invalidDomain
  | some name =>
    if name.any isForbiddenInDomain then .error .invalidDomain
    else if name.isEmpty then .error .emptyHost
    else if endsInNumber name then
      match ipv4? name with
      | some n => .ok (ipv4Text n)
      | none => .error .invalidIpv4
    else .ok (String.ofList name)

/-- A character that stands for itself in a host of another scheme. -/
def keepInHost (c : Char) : Bool := 0x20 ≤ c.toNat && c.toNat < 0x7F

/-- The host between its separators, for the other schemes. -/
def otherHost (cs : List Char) : Except Error String :=
  if cs.any isForbiddenInHost then .error .invalidOpaqueHost
  else .ok (String.ofList (Text.percentEncode keepInHost cs))

/-- The host between its separators. -/
def readHost (names : Names) (special : Bool) (cs : List Char) : Except Error String :=
  match cs with
  | '[' :: rest =>
    if rest.getLast? = some ']' then
      match ipv6? rest.dropLast with
      | some pieces => .ok ("[" ++ ipv6Text pieces ++ "]")
      | none => .error .invalidIpv6
    else .error .invalidIpv6
  | _ => if special then domainHost names cs else otherHost cs

end Reindex.Url
