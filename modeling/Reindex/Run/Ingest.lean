import Reindex.Run.Error
import Reindex.Run.Procedure

/-!
# Writing the records

The records are cut into batches: consecutive pieces of one length, the last of which may be
shorter.  They go out in order, one bulk request for each batch, with a pause between two requests.
Rejected documents are counted and do not stop the load; a request that fails does, and what was
written before it stays.  The records are in memory, so a word counts them; how many of them are
rejected is what the service says, and those numbers are summed up as words are.
-/

namespace Reindex

/-- The consecutive pieces of `xs` of length `size`, the last one with what remains; none if `size`
is zero. -/
def batches {α : Type} (size : Nat) (xs : List α) : List (List α) :=
  if _h : size = 0 ∨ xs = [] then []
  else xs.take size :: batches size (xs.drop size)
termination_by xs.length
decreasing_by
  cases xs with
  | nil => simp_all
  | cons x xs => simp only [List.length_drop, List.length_cons]; omega

namespace Run

/-- How many records go into a request, and how long to pause between two, in milliseconds. -/
structure Ingest where
  batchSize : Nat
  pacing : Nat
  deriving DecidableEq, Repr

/-- The first number that no count can be: counts are words of 64 bits. -/
def countLimit : Nat := 0x10000000000000000

/-- What was sent so far. -/
structure IngestSummary where
  batches : Nat
  submitted : Nat
  rejected : Nat
  /-- The number of records sent after each batch. -/
  progress : List Nat
  deriving DecidableEq, Repr

namespace IngestSummary

/-- Nothing sent yet. -/
def empty : IngestSummary := ⟨0, 0, 0, []⟩

/-- One batch more.  Above the limit the count of the rejected starts from zero again. -/
def add (s : IngestSummary) (size rejected : Nat) : IngestSummary where
  batches := s.batches + 1
  submitted := s.submitted + size
  rejected := (s.rejected + rejected) % countLimit
  progress := s.progress ++ [s.submitted + size]

end IngestSummary

namespace Ingest

open Procedure

/-- A thousand records to a request, a tenth of a second apart. -/
def default : Ingest := ⟨1000, 100⟩

/-- The title of the first record, for the log. -/
def firstTitle (batch : List Record) : String := (batch.head?.bind Record.title?).getD "-"

/-- The reason of the first rejection, for the log. -/
def firstReason (summary : Search.BulkSummary) : String :=
  (summary.rejections.head?.map (·.reason)).getD "unknown"

/-- Sends batches one by one, after those that `sent` counts; `total` is the number of all. -/
def send (ingest : Ingest) (index : String) (total : Nat) :
    List (List Record) → IngestSummary → Procedure Error IngestSummary
  | [], sent => return sent
  | batch :: rest, sent => do
    match ← request (.bulk index batch) with
    | .error e =>
      note (.batchFailed (sent.batches + 1) total sent.submitted (firstTitle batch) e.message)
      fail (.service e)
    | .ok summary =>
      let sent := sent.add batch.length summary.failed
      if summary.hasFailures then
        note (.batchRejections sent.batches summary.failed (firstReason summary))
      note (.inserted sent.submitted)
      unless rest.isEmpty do wait ingest.pacing
      send ingest index total rest sent

/-- Writes the records into an index. -/
def insert (ingest : Ingest) (index : String) (records : List Record) :
    Procedure Error IngestSummary :=
  if ingest.batchSize = 0 then fail (.config "batch size must be at least 1")
  else do
    note .inserting
    let all := batches ingest.batchSize records
    ingest.send index all.length all .empty

end Ingest

end Run

end Reindex
