import Reindex.Settings.CommandLine
import Reindex.Text.Alphanumeric
import Reindex.Text.Basic

/-!
# Files of variables

A file of lines `KEY=value` adds variables to the environment.  A line may start with `export`;
blank lines and comments are skipped; a value may be quoted, hold escapes, and name other
variables.  A variable that is set already stays as it is.  The first line that cannot be read ends
the reading; what the lines before it set is kept.
-/

namespace Reindex.Settings.EnvFile

/-- How a value names a variable: `bare` after a dollar sign, as long as letters and digits follow,
or `braced` up to the closing brace. -/
inductive Naming where
  | bare
  | braced
  deriving DecidableEq, Repr

/-- Where the reader of a value stands between two characters. -/
inductive Mode where
  | plain
  | strong
  | weak
  /-- After a backslash, in the weak quotes or outside. -/
  | escape (quoted : Bool)
  /-- In the name of a variable, in the weak quotes or outside; `name` has the latest character
  first. -/
  | naming (kind : Naming) (quoted : Bool) (name : List Char)
  /-- After a blank: only a comment may follow. -/
  | ending
  | comment
  deriving DecidableEq, Repr

/-- Back from an escape or a name. -/
def Mode.back (quoted : Bool) : Mode := if quoted then .weak else .plain

/-- The variables that a value can name: those of the environment, then those of the lines before.
-/
structure Scope where
  environment : Environment
  lines : List (String × String)
  deriving DecidableEq, Repr

/-- The value of a variable; one that is not set is empty. -/
def Scope.value (scope : Scope) (name : String) : String :=
  ((scope.environment.lookup name) <|> (scope.lines.lookup name)).getD ""

/-- The characters of the variable whose name was read, latest first, put before `out`. -/
def substitute (scope : Scope) (name out : List Char) : List Char :=
  (scope.value (String.ofList name.reverse)).toList.reverse ++ out

/-- The reader of a value between two characters: its mode, and the value so far, latest character
first. -/
structure ValueReader where
  mode : Mode
  out : List Char
  deriving DecidableEq, Repr

/-- One character of a value; `none` if it cannot stand there. -/
def ValueReader.step (scope : Scope) (r : ValueReader) (c : Char) : Option ValueReader :=
  match r.mode with
  | .comment => some r
  | .ending =>
    if c = ' ' ∨ c = '\t' then some r
    else if c = '#' then some { r with mode := .comment }
    else none
  | .escape quoted =>
    if c = '\\' ∨ c = '\'' ∨ c = '"' ∨ c = '$' ∨ c = ' ' then some ⟨.back quoted, c :: r.out⟩
    else if c = 'n' then some ⟨.back quoted, '\n' :: r.out⟩
    else none
  | .strong =>
    some (if c = '\'' then { r with mode := .plain } else { r with out := c :: r.out })
  | .naming kind quoted name =>
    if Text.isAlphanumeric c then some { r with mode := .naming kind quoted (c :: name) }
    else match kind with
      | .bare =>
        if c = '\x7b' ∧ name = [] then some { r with mode := .naming .braced quoted [] }
        else if c = '$' then some ⟨.naming .bare quoted [], substitute scope name r.out⟩
        else some ⟨.back quoted, c :: substitute scope name r.out⟩
      | .braced =>
        if c = '\x7d' then some ⟨.back quoted, substitute scope name r.out⟩
        else some { r with mode := .naming .braced quoted (c :: name) }
  | .weak =>
    if c = '$' then some { r with mode := .naming .bare true [] }
    else if c = '"' then some { r with mode := .plain }
    else if c = '\\' then some { r with mode := .escape true }
    else some { r with out := c :: r.out }
  | .plain =>
    if c = '$' then some { r with mode := .naming .bare false [] }
    else if c = '\'' then some { r with mode := .strong }
    else if c = '"' then some { r with mode := .weak }
    else if c = '\\' then some { r with mode := .escape false }
    else if c = ' ' ∨ c = '\t' then some { r with mode := .ending }
    else some { r with out := c :: r.out }

/-- The value at the end of the line; none inside quotes or braces. -/
def ValueReader.finish (scope : Scope) (r : ValueReader) : Option String :=
  match r.mode with
  | .strong | .weak | .escape true | .naming _ true _ | .naming .braced _ _ => none
  | .naming .bare false name => some (String.ofList (substitute scope name r.out).reverse)
  | _ => some (String.ofList r.out.reverse)

/-- The value that the rest of a line spells. -/
def value? (scope : Scope) (cs : List Char) : Option String :=
  (cs.foldlM (ValueReader.step scope) ⟨.plain, []⟩).bind (·.finish scope)

/-- A character that a key may start with. -/
def startsKey (c : Char) : Bool := c.isAlpha || c == '_'

/-- A character that a key may have further on. -/
def continuesKey (c : Char) : Bool := c.isAlphanum || c == '_' || c == '.'

/-- The text without the blanks at its start. -/
def skipBlanks (cs : List Char) : List Char := cs.dropWhile Text.isBlank

/-- The key ahead, and what follows it and the blanks after it. -/
def key? (cs : List Char) : Option (String × List Char) :=
  match cs with
  | c :: _ =>
    if startsKey c then
      some (String.ofList (cs.takeWhile continuesKey), skipBlanks (cs.dropWhile continuesKey))
    else none
  | [] => none

/-- The key of a line and what follows the equals sign; the word `export` before the key is skipped
unless it is the key. -/
def assignment? (cs : List Char) : Option (String × List Char) := do
  match ← key? cs with
  | (name, '=' :: rest) => some (name, rest)
  | ("export", rest) =>
    match ← key? rest with
    | (name, '=' :: rest) => some (name, rest)
    | _ => none
  | _ => none

/-- Is nothing left but a comment? -/
def isVoid : List Char → Bool
  | [] => true
  | c :: _ => c == '#'

/-- What a line says: nothing, or a variable and its value. -/
def line? (scope : Scope) (cs : List Char) : Option (Option (String × String)) := do
  let cs := skipBlanks (Text.dropBlankEnd cs)
  if isVoid cs then some none
  else
    let (name, rest) ← assignment? cs
    let rest := skipBlanks rest
    if isVoid rest then some (some (name, ""))
    else
      let value ← value? scope rest
      some (some (name, value))

/-- Sets a variable that is not set yet. -/
def Scope.define (scope : Scope) (name value : String) : Scope where
  environment :=
    if (scope.environment.lookup name).isSome then scope.environment
    else (name, value) :: scope.environment
  lines := (name, value) :: scope.lines

/-- Reads lines until one cannot be read. -/
def load (scope : Scope) : List Bytes → Scope
  | [] => scope
  | bytes :: rest =>
    match (Utf8.decode? bytes).bind fun text => line? scope text.toList with
    | none => scope
    | some none => load scope rest
    | some (some (name, value)) => load (scope.define name value) rest

/-- The lines of a file: each ends before a line feed, or a carriage return and a line feed. -/
def lines (content : Bytes) : List Bytes :=
  let cut : UInt8 → List Bytes → List Bytes
    | 0x0A, all => [] :: all
    | b, line :: others => (b :: line) :: others
    | b, [] => [[b]]
  let withoutReturn (line : Bytes) : Bytes :=
    if line.getLast? = some 0x0D then line.dropLast else line
  match (content.foldr cut [[]]).reverse with
  | last :: before => before.reverse.map withoutReturn ++ (if last.isEmpty then [] else [last])
  | [] => []

/-- The maximal runs of characters of a class. -/
def runs (keep : Char → Bool) : List Char → List (List Char)
  | [] => [[]]
  | c :: rest =>
    match runs keep rest with
    | first :: others => if keep c then (c :: first) :: others else [] :: first :: others
    | [] => [[c]]

/-- All texts in a file that could be the name of a variable whose value the file depends on. -/
def names (content : Bytes) : List String :=
  let cs := (Utf8.decodeLossy content).toList
  let found := runs continuesKey cs ++ runs Text.isAlphanumeric cs ++
    runs (fun c => c != '\x7b' && c != '\x7d') cs
  (found.filter (!·.isEmpty)).map String.ofList

end EnvFile

/-- The environment with the variables of a file. -/
def Environment.withFile (environment : Environment) (content : Bytes) : Environment :=
  (EnvFile.load ⟨environment, []⟩ (EnvFile.lines content)).environment

end Reindex.Settings
