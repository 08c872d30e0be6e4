import Reindex.Search.Call

/-!
# A search service in memory

An engine holds indices with their documents.  It can be told to become ready late, to refuse the
creation of indices, to fail one bulk request, and to reject documents at the end of every bulk
request.  The pings are counted in 32 bits, and after the last number the count is zero again.
-/

namespace Reindex.Search

/-- An index of an engine: what it was created with, and its documents. -/
structure StoredIndex where
  body : Json
  documents : List Record
  deriving Repr, BEq

/-- An engine and what has been asked of it so far. -/
structure Engine where
  /-- The number of the first ping that succeeds; without one, none does. -/
  readyOnPing : Option UInt32
  /-- The number of the bulk request that fails. -/
  failBulkOnCall : Option Nat
  /-- Is every creation of an index refused? -/
  failCreate : Bool
  /-- How many documents at the end of every bulk request are rejected. -/
  rejectPerBatch : Nat
  indices : Keyed StoredIndex
  pings : UInt32
  bulkCalls : List (List Record)
  calls : List Call.Kind
  deriving Repr, BEq

namespace Engine

/-- Is the engine ready for its ping number `n`? -/
def readyFor (e : Engine) (n : UInt32) : Bool :=
  match e.readyOnPing with
  | some first => first ≤ n
  | none => false

/-- How many documents of a bulk request are rejected. -/
def rejectedOf (e : Engine) (records : List Record) : Nat := min e.rejectPerBatch records.length

/-- The documents of a bulk request that are accepted. -/
def acceptedOf (e : Engine) (records : List Record) : List Record :=
  records.take (records.length - e.rejectedOf records)

/-- The outcome of a bulk request that is not failed; every rejected document is listed. -/
def summaryOf (e : Engine) (records : List Record) : BulkSummary :=
  let accepted := records.length - e.rejectedOf records
  { total := records.length
    succeeded := accepted
    failed := e.rejectedOf records
    rejections := (List.range' accepted (e.rejectedOf records)).map
      (⟨·, 400, "mapper_parsing_exception"⟩) }

/-- The index called `name`, or a new one without settings. -/
def indexOrNew (e : Engine) (name : String) : StoredIndex :=
  (Keyed.get? name e.indices).getD ⟨.object [], []⟩

/-- The answer to a call, and what it does to the indices and the counters of pings and bulk
requests. -/
def respond (e : Engine) : (c : Call) → c.Result × Engine
  | .ping =>
    (if e.readyFor (e.pings + 1) then .ok true else .error ⟨.connection, "connection refused"⟩,
      { e with pings := e.pings + 1 })
  | .exists index => (.ok (Keyed.get? index e.indices).isSome, e)
  | .delete index => (.ok (), { e with indices := Keyed.erase index e.indices })
  | .create index body =>
    if e.failCreate then (.error ⟨.indexCreation, "status 500"⟩, e)
    else if (Keyed.get? index e.indices).isSome then
      (.error ⟨.indexCreation, "resource_already_exists_exception"⟩, e)
    else (.ok (), { e with indices := Keyed.insert index ⟨body, []⟩ e.indices })
  | .bulk index records =>
    let called := { e with bulkCalls := e.bulkCalls ++ [records] }
    if e.failBulkOnCall = some called.bulkCalls.length then
      (.error ⟨.bulkIndex, "connection reset by peer"⟩, called)
    else
      let old := e.indexOrNew index
      let new : StoredIndex := ⟨old.body, old.documents ++ e.acceptedOf records⟩
      (.ok (e.summaryOf records), { called with indices := Keyed.insert index new e.indices })
  | .count index =>
    match Keyed.get? index e.indices with
    | some stored => (.ok stored.documents.length, e)
    | none => (.error ⟨.query, "index_not_found_exception: " ++ index⟩, e)

/-- The answer to a call, which is also written down. -/
def perform (c : Call) (e : Engine) : c.Result × Engine :=
  let (answer, after) := e.respond c
  (answer, { after with calls := after.calls ++ [c.kind] })

/-- The engine as a service; it logs nothing. -/
def service : Service Engine where
  perform c e :=
    let (answer, after) := e.perform c
    ⟨answer, [], after⟩

end Engine

end Reindex.Search
