import Reindex.Settings.Flag

/-!
# Reading the command line

The arguments are read from left to right.  A flag whose value may still follow is left open; it is
settled when the next flag comes or the arguments end, so a fault of its value is found only then,
and an argument that is unknown altogether is found first.  After the arguments the variables of the
environment are looked at, for the flags that were not given.
-/

namespace Reindex.Settings

/-- The values of the environment's variables. -/
abbrev Environment := List (String × String)

/-- The reader between two arguments: the settings so far, the flags that were settled, and the flag
that is still open, with its value if that has come. -/
structure ArgumentReader where
  settings : Settings
  given : List Flag
  pending : Option (Flag × Option String)
  deriving DecidableEq, Repr

namespace ArgumentReader

/-- Nothing read. -/
def start : ArgumentReader := ⟨.default, [], none⟩

/-- Gives a flag its value; it may have one only. -/
def give (r : ArgumentReader) (flag : Flag) (value : String) : Except Usage ArgumentReader :=
  if flag ∈ r.given then .error .argumentConflict
  else do
    let settings ← r.settings.set flag value
    return ⟨settings, flag :: r.given, none⟩

/-- Settles the open flag. -/
def settle (r : ArgumentReader) : Except Usage ArgumentReader :=
  match r.pending with
  | none => .ok r
  | some (_, none) => .error .invalidValue
  | some (flag, some value) => r.give flag value

/-- An argument that is no flag: the value of the open flag, or one too many. -/
def take (r : ArgumentReader) (value : String) : Except Usage ArgumentReader :=
  match r.pending with
  | some (flag, none) => .ok { r with pending := some (flag, some value) }
  | _ => .error .unknownArgument

/-- An argument after two hyphens, with the text after its first equals sign. -/
def takeLong (r : ArgumentReader) (name : String) (attached : Option String) :
    Except Usage ArgumentReader :=
  if name = "help" then
    match attached with
    | none => do
      let _ ← r.settle
      .error .displayHelp
    | some _ => .error .tooManyValues
  else match Flag.ofName? name with
    | none => .error .unknownArgument
    | some flag => do
      let r ← r.settle
      match attached with
      | some value => r.give flag value
      | none => return { r with pending := some (flag, none) }

/-- An argument after one hyphen. -/
def takeShort (r : ArgumentReader) (letter : Char) : Except Usage ArgumentReader :=
  if letter = 'h' then do
    let _ ← r.settle
    .error .displayHelp
  else .error .unknownArgument

end ArgumentReader

/-- The name before the first equals sign and the text after it. -/
def cutEquals (cs : List Char) : String × Option String :=
  let name := String.ofList (cs.takeWhile (· != '='))
  match cs.dropWhile (· != '=') with
  | [] => (name, none)
  | _ :: rest => (name, some (String.ofList rest))

/-- Reads the arguments.  Two hyphens alone end the flags, and nothing may follow them. -/
def readArguments (r : ArgumentReader) : List String → Except Usage ArgumentReader
  | [] => r.settle
  | argument :: rest =>
    match argument.toList with
    | ['-', '-'] => if rest.isEmpty then r.settle else .error .unknownArgument
    | '-' :: '-' :: cs => do
      let (name, attached) := cutEquals cs
      readArguments (← r.takeLong name attached) rest
    | '-' :: letter :: _ => do readArguments (← r.takeShort letter) rest
    | _ => do readArguments (← r.take argument) rest

/-- Looks at the variable of a flag that was not given. -/
def addVariable (environment : Environment) (r : ArgumentReader) (flag : Flag) :
    Except Usage ArgumentReader :=
  if flag ∈ r.given then .ok r
  else match environment.lookup flag.variableName with
    | none => .ok r
    | some value => r.give flag value

/-- The settings that a command line and an environment make. -/
def parse (arguments : List String) (environment : Environment) : Except Usage Settings := do
  let r ← readArguments .start arguments
  let r ← Flag.all.foldlM (addVariable environment) r
  return r.settings

end Reindex.Settings
