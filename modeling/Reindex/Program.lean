import Reindex.Log.Subscriber
import Reindex.Settings.EnvFile
import Reindex.Settings.Setup

/-!
# The program

A run of the program reads its settings from the command line, the environment and a file of
variables, does one load, and ends with an exit code and what it prints.  The log goes to standard
output too.
-/

namespace Reindex.Program

/-- How a run of the program ends. -/
inductive Ending where
  | usage (u : Usage)
  | failed (e : LoadError)
  | loaded (r : Run.Report)
  deriving DecidableEq, Repr

/-- The line of the help for a flag. -/
def flagHelp (flag : Settings.Flag) : String :=
  "  --" ++ flag.name ++ " <VALUE>  " ++ flag.help ++ " [env: " ++ flag.variableName ++ "]\n"

/-- The help. -/
def help : String :=
  "Bulk-load the movie dataset into a search index\n\nOptions:\n" ++
    String.join (Settings.Flag.all.map flagHelp) ++ "  -h, --help  Print help\n"

/-- What is wrong with a command line. -/
def usageMessage : Usage → String
  | .displayHelp => ""
  | .tooManyValues => "error: unexpected value for '--help' found\n"
  | .unknownArgument => "error: unexpected argument found\n"
  | .invalidValue => "error: a value is required but none was supplied\n"
  | .argumentConflict => "error: an argument cannot be used multiple times\n"
  | .valueValidation => "error: invalid value\n"

namespace Ending

/-- The exit code of the process. -/
def exitCode : Ending → UInt8
  | .usage u => u.exitCode
  | .failed e => e.exitCode
  | .loaded _ => 0

/-- What is logged in the end. -/
def events : Ending → List Event
  | .usage _ => []
  | .failed e => [.loadFailed e.message]
  | .loaded r =>
    .loadComplete r.fetched r.submitted r.rejected r.indexedCount ::
      if 0 < r.rejected then [.documentsRejected r.rejected] else []

/-- What is printed to standard output in the end, after the log. -/
def closing : Ending → String
  | .usage .displayHelp => help
  | .usage _ | .failed _ => ""
  | .loaded r =>
    "\nSuccessfully inserted " ++ toString r.indexedCount ++ " records into the search index!\n"

/-- What is printed to standard error. -/
def stderr : Ending → String
  | .usage u => usageMessage u
  | .failed e =>
    match e.reportLines with
    | [] => ""
    | message :: causes =>
      "An error occurred: " ++ message ++ "\n" ++
        String.join (causes.map fun cause => "  Caused by: " ++ cause ++ "\n")
  | .loaded _ => ""

end Ending

/-- The name of the file of variables, in the working directory. -/
def envFileName : String := ".env"

/-- The environment together with the file of variables, if there is one. -/
def environment (read : Files.Reader) (inherited : Settings.Environment) : Settings.Environment :=
  match read envFileName with
  | .ok content => inherited.withFile content
  | .error _ => inherited

/-- The settings of a run. -/
def settings (read : Files.Reader) (arguments : List String) (inherited : Settings.Environment) :
    Except Ending Settings :=
  (Settings.parse arguments (environment read inherited)).mapError .usage

/-- How a run ends whose load ended with a result. -/
def conclude : Except Run.Error Run.Report → Ending
  | .ok report => .loaded report
  | .error e => .failed (.run e)

/-- Runs the program with its settings against a server. -/
def runWith {τ : Type} (names : Url.Names) (read : Files.Reader) (s : Settings)
    (server : Http.Server τ) (x : Http.Exchange τ) : Traced (Http.Exchange τ) Ending :=
  match s.setup names read with
  | .error e => ⟨.failed e, s.setupEvents names ++ (Ending.failed e).events, x⟩
  | .ok load =>
    let outcome := load.run read server x
    let ending := conclude outcome.result
    ⟨ending, s.setupEvents names ++ outcome.events ++ ending.events, outcome.state⟩

/-- Runs the program against a server. -/
def run {τ : Type} (names : Url.Names) (read : Files.Reader) (arguments : List String)
    (inherited : Settings.Environment) (server : Http.Server τ) (x : Http.Exchange τ) :
    Traced (Http.Exchange τ) Ending :=
  match settings read arguments inherited with
  | .error ending => ⟨ending, [], x⟩
  | .ok s => runWith names read s server x

section

variable {τ : Type} {names : Url.Names} {read : Files.Reader} {s : Settings}
  (server : Http.Server τ) (x : Http.Exchange τ)

theorem runWith_of_error {e : LoadError} (h : s.setup names read = .error e) :
    runWith names read s server x =
      ⟨.failed e, s.setupEvents names ++ (Ending.failed e).events, x⟩ := by
  unfold runWith
  rw [h]

theorem runWith_of_ok {load : Setup} (h : s.setup names read = .ok load) :
    runWith names read s server x =
      ⟨conclude (load.run read server x).result,
        s.setupEvents names ++ (load.run read server x).events ++
          (conclude (load.run read server x).result).events,
        (load.run read server x).state⟩ := by
  unfold runWith
  rw [h]

/-- Once its settings are read, the program runs with them. -/
theorem run_of_settings {arguments : List String} {inherited : Settings.Environment}
    (h : settings read arguments inherited = .ok s) :
    run names read arguments inherited server x = runWith names read s server x := by
  unfold run
  rw [h]

end

/-! ## Standard output -/

/-- The directives that a run is logged under: those of the environment if they can be read. -/
def directives (subscriber : Subscriber) (environment : Settings.Environment) : String :=
  ((environment.lookup "RUST_LOG").filter subscriber.reads).getD "info"

/-- What a run prints to standard output: its log, and its closing words. -/
def stdout {σ : Type} (subscriber : Subscriber) (environment : Settings.Environment)
    (run : Traced σ Ending) : String :=
  String.join (run.events.map (subscriber.write (directives subscriber environment))) ++
    run.answer.closing

end Reindex.Program
