import Reindex.Dataset.Record
import Reindex.Log.Event
import Reindex.Search.Bulk

/-!
# Calls to the search service

The operations that a load needs, the kind of answer to each, and what a failed call tells.  A
search service is a machine that answers calls, and loads are written for any such machine.
-/

namespace Reindex.Search

/-! ## Failed calls -/

/-- What a failed call was meant to do. -/
inductive ErrorKind where
  | connection
  | query
  | indexExists
  | indexDeletion
  | indexCreation
  | bulkIndex
  | parse
  deriving DecidableEq, Repr

/-- The words that introduce an error of a kind. -/
def ErrorKind.label : ErrorKind → String
  | .connection => "Connection error"
  | .query => "Query error"
  | .indexExists => "Index exists error"
  | .indexDeletion => "Index deletion error"
  | .indexCreation => "Index creation error"
  | .bulkIndex => "Bulk index error"
  | .parse => "Parse error"

/-- A failed call: what it was meant to do, and what went wrong. -/
structure Error where
  kind : ErrorKind
  detail : String
  deriving DecidableEq, Repr

/-- The message of an error. -/
def Error.message (e : Error) : String := e.kind.label ++ ": " ++ e.detail

/-! ## Calls -/

/-- A call to the search service. -/
inductive Call where
  /-- Does the service answer, and with success? -/
  | ping
  /-- Is there an index of this name? -/
  | exists (index : String)
  /-- Deletes an index. -/
  | delete (index : String)
  /-- Creates an index with the given settings and mappings. -/
  | create (index : String) (body : Json)
  /-- Writes records into an index with one request. -/
  | bulk (index : String) (records : List Record)
  /-- The number of documents in an index. -/
  | count (index : String)
  deriving Repr, BEq

namespace Call

/-- The kind of answer to a call. -/
abbrev Answer : Call → Type
  | .ping | .exists _ => Bool
  | .delete _ | .create _ _ => Unit
  | .bulk _ _ => BulkSummary
  | .count _ => Nat

/-- The operations, without what they are applied to. -/
inductive Kind where
  | ping
  | exists
  | delete
  | create
  | bulk
  | count
  deriving DecidableEq, Repr

/-- The operation that a call is one of. -/
def kind : Call → Kind
  | .ping => .ping
  | .exists _ => .exists
  | .delete _ => .delete
  | .create _ _ => .create
  | .bulk _ _ => .bulk
  | .count _ => .count

/-- The index that a call names. -/
def index? : Call → Option String
  | .ping => none
  | .exists index | .delete index | .create index _ | .bulk index _ | .count index => some index

/-- The kind of error of a call that was refused or never reached the service. -/
def errorKind : Call → ErrorKind
  | .ping => .connection
  | .exists _ => .indexExists
  | .delete _ => .indexDeletion
  | .create _ _ => .indexCreation
  | .bulk _ _ => .bulkIndex
  | .count _ => .query

/-- What a call results in. -/
abbrev Result (c : Call) : Type := Except Error c.Answer

end Call

/-! ## Services -/

/-- A search service with states `σ`. -/
structure Service (σ : Type) where
  perform : (c : Call) → σ → Traced σ c.Result

end Reindex.Search
