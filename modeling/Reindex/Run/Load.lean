import Reindex.Run.Ingest
import Reindex.Run.Readiness
import Reindex.Run.Reset

/-!
# A load

A load waits for the service, resets the index, fetches the dataset, writes its records and counts
what has arrived.  The first step that fails ends it.
-/

namespace Reindex.Run

open Procedure

/-- What to load into, and how. -/
structure Config where
  index : Search.IndexConfig
  readiness : Readiness
  ingest : Ingest
  deriving Repr

/-- The built-in index, with the default pauses and sizes. -/
def Config.default : Config := ⟨.movies Search.IndexConfig.defaultName, .default, .default⟩

/-- What a load has done. -/
structure Report where
  /-- The ping that found the service ready. -/
  attempts : Nat
  fetched : Nat
  submitted : Nat
  rejected : Nat
  /-- The number of documents that the service counts in the end. -/
  indexedCount : Nat
  deriving DecidableEq, Repr

/-- Nothing done. -/
def Report.empty : Report := ⟨0, 0, 0, 0, 0⟩

/-- The work of a load: it carries the state that the load is in, and it can fail. -/
abbrev Work (α : Type) : Type := ExceptT Error (StateT State (Procedure Empty)) α

/-- Logs an event. -/
def tell (event : Event) : StateT State (Procedure Empty) Unit := StateT.lift (note event)

/-- Passes into another state. -/
def transition (new : State) : StateT State (Procedure Empty) Unit := do
  let old ← get
  tell (.stateChanged old new)
  set new

/-- Does what knows nothing of the state of the load. -/
def doing {α : Type} (p : Procedure Error α) : Work α := .mk (StateT.lift p.attempt)

/-- The steps of a load. -/
def runSteps (config : Config) : Work Report := do
  transition .probing
  let attempts ← doing config.readiness.awaitService
  transition .initializing
  doing (reset config.index)
  transition .fetching
  let dataset ← doing records
  transition .ingesting
  let sent ← doing (config.ingest.insert config.index.name dataset)
  transition .verifying
  let counted ← doing ((perform (.count config.index.name)).mapError Error.service)
  if counted ≠ dataset.length then tell (.countDiffers dataset.length counted sent.rejected)
  return ⟨attempts, dataset.length, sent.submitted, sent.rejected, counted⟩

/-- A load from the source called `source`.  What it ends with is its result, and the state that it
has come to. -/
def orchestrate (config : Config) (source : String) :
    StateT State (Procedure Empty) (Except Error Report) := do
  tell (.loadStarted source)
  match ← (runSteps config).run with
  | .ok report =>
    transition .done
    return .ok report
  | .error e =>
    let step ← get
    transition .failed
    tell (.runFailed step e.message)
    return .error e

/-- A load that starts in the state `start`, and its result alone. -/
def load (config : Config) (source : String) (start : State) : Procedure Error Report :=
  ((orchestrate config source).run start).andThen fun
    | .ok (result, _) => .done result

end Reindex.Run
