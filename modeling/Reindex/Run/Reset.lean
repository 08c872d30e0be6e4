import Reindex.Run.Error
import Reindex.Run.Procedure
import Reindex.Search.Index

/-!
# Resetting the index

Whatever the index held before, afterwards it is empty and has the given settings.  Losing the old
index without getting the new one is an error of its own.
-/

namespace Reindex.Run

open Procedure Search

/-- Deletes the index if it exists, and creates it. -/
def reset (index : IndexConfig) : Procedure Error Unit := do
  note .creatingIndex
  let existed ← (perform (.exists index.name)).mapError Error.service
  if existed then
    note (.deletingIndex index.name)
    (perform (.delete index.name)).mapError Error.service
  match ← request (.create index.name index.body) with
  | .ok () => note (.indexCreated index.name)
  | .error e =>
    if existed then
      note (.indexLost index.name e.message)
      fail (.indexRecreate index.name e)
    else fail (.service e)

end Reindex.Run
