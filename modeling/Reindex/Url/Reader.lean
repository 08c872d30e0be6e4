import Reindex.Url.Basic
import Reindex.Url.Host

/-!
# Reading URLs

`Url.parse` takes an absolute URL apart by the rules of the URL standard: blanks and controls around
it are dropped, tabs and line breaks are dropped everywhere, dot segments are resolved, and each
part is percent-encoded with the characters that are special in its place.  `Url.below` resolves a
reference that consists of path segments only.
-/

namespace Reindex.Url

/-- A character in the printable part of ASCII that is none of `others`. -/
def keepExcept (others : String) (c : Char) : Bool :=
  0x20 ≤ c.toNat && c.toNat < 0x7F && !others.toList.contains c

/-- The characters that stand for themselves in a fragment. -/
def keepInFragment : Char → Bool := keepExcept " \"<>`"

/-- The characters that stand for themselves in a query. -/
def keepInQuery (special : Bool) : Char → Bool :=
  keepExcept (if special then " \"#<>'" else " \"#<>")

/-- The characters that stand for themselves in a path segment. -/
def keepInPath : Char → Bool := keepExcept " \"#<>?^`\x7b\x7d"

/-- The characters that stand for themselves in a name or password. -/
def keepInCredentials : Char → Bool := keepExcept " \"#<>?^`\x7b\x7d/:;=@[\\]|"

/-- The characters that stand for themselves in a path that is one text. -/
def keepInVerbatim : Char → Bool := keepExcept ""

/-- The text `cs` in the characters of `keep`. -/
def encoded (keep : Char → Bool) (cs : List Char) : String :=
  String.ofList (Text.percentEncode keep cs)

/-! ## Paths -/

/-- Is the segment a single dot, in either spelling? -/
def isDot (segment : List Char) : Bool :=
  segment == ['.'] || segment.map Char.toLower == ['%', '2', 'e']

/-- Is the segment two dots, in any spelling? -/
def isDotDot (segment : List Char) : Bool :=
  let s := segment.map Char.toLower
  s == ['.', '.'] || s == ['%', '2', 'e', '.'] || s == ['.', '%', '2', 'e'] ||
    s == ['%', '2', 'e', '%', '2', 'e']

/-- The path `before`, continued by raw segments.  A dot stays where it is, two dots go up one
segment; either leaves an empty segment when it comes last. -/
def addSegments (before : List String) : List (List Char) → List String
  | [] => before
  | [last] =>
    if isDotDot last then before.dropLast ++ [""]
    else if isDot last then before ++ [""]
    else before ++ [encoded keepInPath last]
  | segment :: rest =>
    if isDotDot segment then addSegments before.dropLast rest
    else if isDot segment then addSegments before rest
    else addSegments (before ++ [encoded keepInPath segment]) rest

/-- The text between the slashes of a path; for special schemes a backslash is one too. -/
def splitPath (special : Bool) (cs : List Char) : List (List Char) :=
  splitOn '/' (if special then cs.map fun c => if c = '\\' then '/' else c else cs)

/-! ## Parts -/

/-- A text up to the first of some characters, and the rest from there on. -/
def cut (stop : Char → Bool) (cs : List Char) : List Char × List Char :=
  (cs.takeWhile (!stop ·), cs.dropWhile (!stop ·))

/-- Is `c` a slash, or a backslash that counts as one? -/
def isSlash (special : Bool) (c : Char) : Bool := c == '/' || (special && c == '\\')

/-- Does `c` end the host and what comes with it? -/
def endsAuthority (special : Bool) (c : Char) : Bool :=
  isSlash special c || c == '?' || c == '#'

/-- Does `c` end the path? -/
def endsPath (c : Char) : Bool := c == '?' || c == '#'

/-- The scheme in lower case and what follows its colon. -/
def readScheme? (cs : List Char) : Option (String × List Char) :=
  match cs with
  | [] => none
  | c :: _ =>
    if c.isAlpha then
      match cut (fun c => !(c.isAlphanum || c == '+' || c == '-' || c == '.')) cs with
      | (name, ':' :: rest) => some (String.ofList (name.map Char.toLower), rest)
      | _ => none
    else none

/-- The query and the fragment, from the character that ends the path. -/
def readTail (special : Bool) (cs : List Char) : Option String × Option String :=
  let fragment? : List Char → Option String
    | '#' :: rest => some (encoded keepInFragment rest)
    | _ => none
  match cs with
  | '?' :: rest =>
    let (query, rest) := cut (· == '#') rest
    (some (encoded (keepInQuery special) query), fragment? rest)
  | rest => (none, fragment? rest)

/-- A port: digits up to 65535; the one that the scheme implies is dropped. -/
def readPort (scheme : String) (cs : List Char) : Except Error (Option Nat) :=
  if cs.isEmpty then .ok none
  else match Text.numeral? 10 cs with
    | some n =>
      if 65535 < n then .error .invalidPort
      else .ok (if defaultPort? scheme = some n then none else some n)
    | none => .error .invalidPort

/-- Name and password, and the host with its port: what comes before and after the last `@`. -/
def cutCredentials (cs : List Char) : Option (List Char) × List Char :=
  if cs.contains '@' then
    let (after, before) := cut (· == '@') cs.reverse
    (some before.tail.reverse, after.reverse)
  else (none, cs)

/-- A name, and the password after the first colon unless it is empty. -/
def readCredentials (cs : List Char) : String × Option String :=
  match cut (· == ':') cs with
  | (name, ':' :: []) | (name, []) => (encoded keepInCredentials name, none)
  | (name, _ :: password) =>
    (encoded keepInCredentials name, some (encoded keepInCredentials password))

/-- Is the place after `c` within brackets? -/
def inBracketsAfter (inBrackets : Bool) (c : Char) : Bool :=
  if c = '[' then true else if c = ']' then false else inBrackets

/-- A host up to the colon of its port; a colon in brackets belongs to the host. -/
def cutPort : (inBrackets : Bool) → List Char → List Char × Option (List Char)
  | _, [] => ([], none)
  | inBrackets, c :: rest =>
    if c = ':' && !inBrackets then ([], some rest)
    else
      let (host, port) := cutPort (inBracketsAfter inBrackets c) rest
      (c :: host, port)

/-- The path of a URL with a host, from the slash on.  For special schemes there always is one. -/
def readHostPath (special : Bool) (cs : List Char) : List String :=
  match cs with
  | [] => if special then [""] else []
  | c :: rest =>
    addSegments [] (splitPath special (if isSlash special c then rest else cs))

/-- A URL from what follows the two slashes after its scheme. -/
def readAuthority (names : Names) (scheme : String) (cs : List Char) : Except Error Url := do
  let special := isSpecial scheme
  let (authority, rest) := cut (endsAuthority special) cs
  let (credentials, hostPort) := cutCredentials authority
  if credentials = some [] ∧ hostPort = [] ∧ rest ≠ [] then throw .emptyHost
  let (username, password) := readCredentials (credentials.getD [])
  let (hostChars, portChars) := cutPort false hostPort
  if special ∧ hostChars = [] then throw .emptyHost
  let host ← readHost names special hostChars
  if host = "" ∧ portChars.isSome then throw .emptyHost
  let port ← readPort scheme (portChars.getD [])
  if host = "" ∧ (username ≠ "" ∨ password.isSome) then throw .emptyHost
  let (path, tail) := cut endsPath rest
  let (query, fragment) := readTail special tail
  return {
    scheme, username, password, host := some host, port
    path := .segments (readHostPath special path), query, fragment }

/-- A URL of the scheme `file`: the host, if there are two slashes, may be empty. -/
def readFile (names : Names) (cs : List Char) : Except Error Url := do
  let (host, rest) ← match cs with
    | a :: b :: rest =>
      if isSlash true a && isSlash true b then do
        let (hostChars, rest) := cut (endsAuthority true) rest
        if hostChars = [] then pure ("", rest)
        else do
          let host ← readHost names true hostChars
          pure (if host = "localhost" then "" else host, rest)
      else pure ("", cs)
    | _ => pure ("", cs)
  let (path, tail) := cut endsPath rest
  let (query, fragment) := readTail true tail
  return {
    scheme := "file", username := "", password := none, host := some host, port := none
    path := .segments (readHostPath true path), query, fragment }

/-- A URL without a host. -/
def readHostless (scheme : String) (cs : List Char) : Url :=
  let (path, tail) := cut endsPath cs
  let (query, fragment) := readTail false tail
  let path := match path with
    | '/' :: rest => .segments (addSegments [] (splitPath false rest))
    | _ => .verbatim (encoded keepInVerbatim path)
  { scheme, username := "", password := none, host := none, port := none, path, query, fragment }

/-! ## Whole texts -/

/-- A control character or a space. -/
def isEdge (c : Char) : Bool := c.toNat ≤ 0x20

/-- A tab or a line break. -/
def isIgnored (c : Char) : Bool := c == '\t' || c == '\n' || c == '\r'

/-- What of a text is read. -/
def relevant (s : String) : List Char :=
  let cs := s.toList.dropWhile isEdge
  ((cs.reverse.dropWhile isEdge).reverse).filter (!isIgnored ·)

/-- The absolute URL that a text spells. -/
def parse (names : Names) (s : String) : Except Error Url :=
  match readScheme? (relevant s) with
  | none => .error .noBase
  | some (scheme, rest) =>
    if scheme = "file" then readFile names rest
    else if isSpecial scheme then readAuthority names scheme (rest.dropWhile (isSlash true))
    else match rest with
      | '/' :: '/' :: rest => readAuthority names scheme rest
      | rest => .ok (readHostless scheme rest)

/-- The URL with a slash at the end of its path. -/
def asDirectory (u : Url) : Url :=
  match u.path with
  | .segments list =>
    if list.getLast? = some "" then u else { u with path := .segments (list ++ [""]) }
  | .verbatim _ => u

/-- The URL that a reference made of path segments leads to: its last segment gives way to them, and
query and fragment are dropped.  The empty reference leads to the URL itself, query included. -/
def below (base : Url) (reference : String) : Except Error Url :=
  match base.path with
  | .verbatim _ => .error .notABase
  | .segments list =>
    if reference = "" then .ok base.withoutFragment
    else
      let segments := splitPath (isSpecial base.scheme) reference.toList
      .ok { base with
        path := .segments (addSegments list.dropLast segments), query := none, fragment := none }

end Reindex.Url
