/-!
# Where a load is

A load goes through its steps in order; `failed` can follow any of them, and nothing follows `done`
or `failed` but a new load.
-/

namespace Reindex.Run

/-- Where a load is. -/
inductive State where
  | idle
  | probing
  | initializing
  | fetching
  | ingesting
  | verifying
  | done
  | failed
  deriving DecidableEq, Repr

/-- The name of a state. -/
def State.name : State → String
  | .idle => "idle"
  | .probing => "probing"
  | .initializing => "initializing"
  | .fetching => "fetching"
  | .ingesting => "ingesting"
  | .verifying => "verifying"
  | .done => "done"
  | .failed => "failed"

end Reindex.Run
