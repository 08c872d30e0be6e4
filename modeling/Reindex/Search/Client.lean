import Reindex.Http.Exchange
import Reindex.Search.Call
import Reindex.Text.ByteOrder
import Reindex.Url.Reader

/-!
# Search services over HTTP

A client knows the base URL of a service.  Each call is at most one request: `Client.request` says
which, and `conclude` says what the answer to it means for the call.
-/

namespace Reindex.Search

/-- A search service reached over HTTP. -/
structure Client where
  /-- The URL below which the service's operations are found; its path ends in a slash. -/
  base : Url
  deriving DecidableEq, Repr

/-- The content type of every request. -/
def contentType : String := "application/json"

/-- A character that stands for itself in the name of an index. -/
def keepInIndexName (c : Char) : Bool := c.isAlphanum || "_-.,*".toList.contains c

/-- The name of an index as a segment of a path. -/
def indexSegment (index : String) : String :=
  String.ofList (Text.percentEncode keepInIndexName index.toList)

/-- The place of an operation on an index, below the base. -/
def operationPath (index operation : String) : String :=
  if index = "" then operation else indexSegment index ++ "/" ++ operation

/-- The two lines that a bulk request has for a record: where it goes, and the record itself. -/
def bulkLines (index : String) (r : Record) : Bytes :=
  (Json.ofPairs [("index", Json.ofPairs [("_index", .string index)])]).wireBytes ++ [0x0A] ++
    r.toJson.wireBytes ++ [0x0A]

namespace Call

/-- The method of a call's request. -/
def method : Call → Http.Method
  | .ping | .exists _ => .head
  | .delete _ => .delete
  | .create _ _ => .put
  | .bulk _ _ => .post
  | .count _ => .get

/-- Where a call's request goes, below the base. -/
def path : Call → String
  | .ping => ""
  | .exists index | .delete index | .create index _ => indexSegment index
  | .bulk index _ => operationPath index "_bulk"
  | .count index => operationPath index "_count"

/-- The body of a call's request. -/
def body : Call → Bytes
  | .create _ body => body.wireBytes
  | .bulk index records => records.flatMap (bulkLines index)
  | _ => []

/-- The result of a call that needs no request: there is nothing to write. -/
def immediate? : (c : Call) → Option c.Result
  | .bulk _ [] => some (.ok (.allSucceeded 0))
  | _ => none

end Call

namespace Client

/-- A client for the service at a URL. -/
def connect (names : Url.Names) (url : String) : Except Error Client :=
  match Url.parse names url with
  | .ok u => .ok ⟨u.asDirectory⟩
  | .error e => .error ⟨.connection, e.message⟩

/-- The request of a call. -/
def request (client : Client) (c : Call) : Except Url.Error Http.Request := do
  let url ← client.base.below c.path
  return ⟨c.method, url, some contentType, c.body⟩

end Client

/-- The text of an error's body; one that cannot be read counts as empty. -/
def errorBody (r : Http.Response) : String := (r.body?.map Text.ofMarkedBytes).getD ""

/-- The JSON value that an answer holds. -/
def responseJson (url : Url) (r : Http.Response) : Except Error Json :=
  match r.body?.map Json.parse with
  | some (.ok value) => .ok value
  | _ => .error
    ⟨.parse, "error decoding response body for url (" ++ url.withoutCredentials.text ++ ")"⟩

/-- The outcome of a bulk request that was answered with success. -/
def concludeBulk (index : String) (total : Nat) (url : Url) (r : Http.Response) :
    Except Error BulkSummary × List Event :=
  match responseJson url r with
  | .error e => (.error e, [])
  | .ok value =>
    let summary := BulkSummary.ofResponse total value
    (.ok summary,
      if summary.hasFailures then [.bulkRejections index summary.failed summary.total] else [])

/-- The number of documents that an answer gives. -/
def concludeCount (url : Url) (r : Http.Response) : Except Error Nat := do
  let value ← responseJson url r
  match (value.field? "count").bind Json.asNat? with
  | some n => return n
  | none => throw ⟨.parse, "Count response has no count: " ++ value.wire⟩

/-- What the answer to a call's request means, and what is logged about it. -/
def concludeAnswer (url : Url) (r : Http.Response) : (c : Call) → c.Result × List Event
  | .ping =>
    (.ok r.status.isSuccess, if r.status.isSuccess then [] else [.pingRefused r.status])
  | .exists index =>
    if r.status.code = 200 then (.ok true, [])
    else if r.status.code = 404 then (.ok false, [])
    else (.error ⟨.indexExists, "Unexpected status " ++ toString r.status.code ++
      " checking index " ++ index⟩, [])
  | .delete index =>
    if r.status.isSuccess ∨ r.status.code = 404 then (.ok (), [.deleteAccepted index])
    else (.error ⟨.indexDeletion, "Delete of index " ++ index ++ " failed with status " ++
      r.status.text ++ ": " ++ errorBody r⟩, [.deleteRefused r.status (errorBody r)])
  | .create index _ =>
    if r.status.isSuccess then (.ok (), [.createAccepted index])
    else (.error ⟨.indexCreation, "Create of index " ++ index ++ " failed with status " ++
      r.status.text ++ ": " ++ errorBody r⟩, [.createRefused r.status (errorBody r)])
  | .bulk index records =>
    if r.status.isSuccess then concludeBulk index records.length url r
    else (.error ⟨.bulkIndex, "Bulk request failed with status " ++ r.status.text ++ ": " ++
      errorBody r⟩, [.bulkRefused r.status (errorBody r)])
  | .count index =>
    if r.status.isSuccess then (concludeCount url r, [])
    else (.error ⟨.query, "Count on index " ++ index ++ " failed with status " ++
      r.status.text ++ ": " ++ errorBody r⟩, [])

/-- What becomes of a call whose request went out. -/
def conclude (url : Url) (answer : Except Http.Failure Http.Response) (c : Call) :
    c.Result × List Event :=
  match answer with
  | .error f => (.error ⟨c.errorKind, f.message url⟩, [])
  | .ok r => concludeAnswer url r c

/-- The service that a client finds at a server. -/
def Client.service {τ : Type} (client : Client) (server : Http.Server τ) :
    Service (Http.Exchange τ) where
  perform c x :=
    match c.immediate? with
    | some result => ⟨result, [], x⟩
    | none =>
      match client.request c with
      | .error e => ⟨.error ⟨c.errorKind, e.message⟩, [], x⟩
      | .ok r =>
        let (answer, after) := x.send server r
        let (result, events) := conclude r.url answer c
        ⟨result, events, after⟩

end Reindex.Search
