import Reindex.Log.Event

/-!
# Writing a log

What becomes of the events of a program is up to a subscriber.  Directives tell it which of them to
leave out.
-/

namespace Reindex

/-- What writes a log, apart from the time of each event. -/
structure Subscriber where
  /-- Is the text made of directives? -/
  reads : String → Bool
  /-- What is written of an event under directives, and nothing if they leave it out. -/
  write : String → Event → String

namespace Level

/-- The name of a level. -/
def name : Level → String
  | .debug => "DEBUG"
  | .info => "INFO"
  | .warn => "WARN"
  | .error => "ERROR"

/-- How much is to be logged for events of a level to be among it. -/
def detail : Level → Nat
  | .error => 1
  | .warn => 2
  | .info => 3
  | .debug => 4

end Level

/-- How much is logged under a directive that names a level. -/
def detail? : String → Option Nat
  | "off" => some 0
  | "error" => some 1
  | "warn" => some 2
  | "info" => some 3
  | "debug" => some 4
  | "trace" => some 5
  | _ => none

/-- The value of a field as a text. -/
def FieldValue.shown : FieldValue → String
  | .number n => toString n
  | .text s => s

/-- The line of an event: its level, its message and its fields. -/
def Event.line (event : Event) : String :=
  event.level.name ++ " " ++ event.message ++
    String.join (event.fields.map fun (name, value) => " " ++ name ++ "=" ++ value.shown) ++ "\n"

/-- Writes one line for each event of a level. -/
def Subscriber.plain : Subscriber where
  reads text := (detail? text).isSome
  write directives event :=
    if event.level.detail ≤ (detail? directives).getD 0 then event.line else ""

end Reindex
