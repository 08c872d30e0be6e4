import Reindex.Json.Printer
import Reindex.Json.Value

/-!
# What became of a bulk request

A bulk request can succeed as a whole while single documents are rejected.  The summary counts the
rejected documents and keeps the first few of them.
-/

namespace Reindex.Search

/-- A rejected document: its place in the request, from zero, and why it was rejected. -/
structure Rejection where
  position : Nat
  status : Nat
  reason : String
  deriving DecidableEq, Repr

/-- The outcome of one bulk request. -/
structure BulkSummary where
  total : Nat
  succeeded : Nat
  failed : Nat
  rejections : List Rejection
  deriving DecidableEq, Repr

namespace BulkSummary

/-- The number of rejections that a summary keeps. -/
def maxRejections : Nat := 10

/-- Every document was accepted. -/
def allSucceeded (total : Nat) : BulkSummary := ⟨total, total, 0, []⟩

/-- Was any document rejected? -/
def hasFailures (s : BulkSummary) : Bool := 0 < s.failed

/-- The result that an item of a response holds: the value of its first member, whatever its
name. -/
def itemResult? : Json → Option Json
  | .object ((_, result) :: _) => some result
  | _ => none

/-- The status of a rejected item; one that is no 16-bit word counts as zero. -/
def itemStatus (result : Json) : Nat :=
  (((result.field? "status").bind Json.asNat?).filter (· < 65536)).getD 0

/-- The reason that an item's error gives, or the whole error if it gives none. -/
def errorReason (error : Json) : String :=
  ((error.field? "reason").bind Json.asString?).getD error.wire

/-- The rejection that an item of a response reports, if it has an error. -/
def itemRejection? (position : Nat) (item : Json) : Option Rejection := do
  let result ← itemResult? item
  let error ← result.field? "error"
  some ⟨position, itemStatus result, errorReason error⟩

/-- The items of a response. -/
def responseItems (body : Json) : List Json :=
  ((body.field? "items").bind Json.asArray?).getD []

/-- Does a response say that an item has an error? -/
def reportsErrors (body : Json) : Bool :=
  ((body.field? "errors").bind Json.asBool?).getD false

/-- The rejections that the items report, in their order. -/
def rejectionsOf (items : List Json) : List Rejection :=
  items.zipIdx.filterMap fun (item, position) => itemRejection? position item

/-- The summary of a request of `total` documents that was answered with `body`.  Unless the
response says that there are errors, its items are not looked at. -/
def ofResponse (total : Nat) (body : Json) : BulkSummary :=
  if reportsErrors body then
    let found := rejectionsOf (responseItems body)
    let failed := min found.length total
    ⟨total, total - failed, failed, found.take maxRejections⟩
  else allSucceeded total

end BulkSummary

end Reindex.Search
