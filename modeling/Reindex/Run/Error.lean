import Reindex.Search.Call
import Reindex.Text.Basic

/-!
# How a load can fail

The errors that end a load, the errors that keep one from starting, their messages, the exit codes
of the process, and the lines in which an error is reported.
-/

namespace Reindex

namespace Run

/-- What ends a load. -/
inductive Error where
  /-- The service was not ready within the allowed number of pings. -/
  | connectivity (attempts : Nat) (lastError : String)
  /-- A call to the service failed. -/
  | service (cause : Search.Error)
  /-- The index was deleted and could not be created again. -/
  | indexRecreate (index : String) (cause : Search.Error)
  /-- The dataset could not be had. -/
  | fetch (detail : String)
  /-- A setting is of no use. -/
  | config (detail : String)
  deriving DecidableEq, Repr

namespace Error

/-- The message of an error. -/
def message : Error → String
  | .connectivity attempts lastError =>
    "Could not connect to the search service after " ++ toString attempts ++ " attempts: " ++
      lastError
  | .service cause => "Search service error: " ++ cause.message
  | .indexRecreate index cause =>
    "Index " ++ index ++ " was deleted but could not be recreated: " ++ cause.message
  | .fetch detail => "Fetch error: " ++ detail
  | .config detail => "Configuration error: " ++ detail

/-- The messages of the errors behind an error, the nearest first. -/
def causes : Error → List String
  | .service cause | .indexRecreate _ cause => [cause.message]
  | _ => []

/-- The exit code for a service that never became ready. -/
def connectivityExit : UInt8 := 2

/-- The exit code for a failed call. -/
def serviceExit : UInt8 := 3

/-- The exit code for a dataset that could not be had. -/
def fetchExit : UInt8 := 4

/-- The exit code for settings of no use. -/
def configExit : UInt8 := 64

/-- The exit code for an error. -/
def exitCode : Error → UInt8
  | .connectivity .. => connectivityExit
  | .service _ | .indexRecreate .. => serviceExit
  | .fetch _ => fetchExit
  | .config _ => configExit

end Error

end Run

/-- What keeps a load from starting, or ends it. -/
inductive LoadError where
  | config (detail : String)
  | run (cause : Run.Error)
  | search (cause : Search.Error)
  deriving DecidableEq, Repr

namespace LoadError

/-- The message of an error. -/
def message : LoadError → String
  | .config detail => "Configuration error: " ++ detail
  | .run cause => cause.message
  | .search cause => "Search error: " ++ cause.message

/-- The messages of the errors behind an error, the nearest first. -/
def causes : LoadError → List String
  | .config _ => []
  | .run cause => cause.causes
  | .search cause => [cause.message]

/-- The exit code for an error. -/
def exitCode : LoadError → UInt8
  | .config _ | .search _ => Run.Error.configExit
  | .run cause => cause.exitCode

/-- The lines with one more text, unless one of them shows it already. -/
def addLine (lines : List String) (text : String) : List String :=
  if lines.any (Text.contains · text) then lines else lines ++ [text]

/-- The lines of a report: the message, and those of the causes that no line before shows. -/
def reportLines (e : LoadError) : List String := e.causes.foldl addLine [e.message]

end LoadError

end Reindex
