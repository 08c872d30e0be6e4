import Reindex.Http.Status
import Reindex.Run.State

/-!
# What is logged

One constructor for each thing that is logged, and how it is worded: a level, a message and named
fields.  What acts on a state and logs meanwhile gives a `Traced` answer.
-/

namespace Reindex

/-- The level of an event. -/
inductive Level where
  | debug
  | info
  | warn
  | error
  deriving DecidableEq, Repr

/-- The value of a field. -/
inductive FieldValue where
  | number (n : Nat)
  | text (s : String)
  deriving DecidableEq, Repr

/-- Something that is logged. -/
inductive Event where
  | initializing (searchUrl index : String) (batchSize : Nat)
  | clientCreated (url : String) (timeoutMs : Nat)
  | loadStarted (source : String)
  | stateChanged (old new : Run.State)
  | runFailed (step : Run.State) (error : String)
  | countDiffers (fetched indexed rejected : Nat)
  | awaitingService
  | serviceReady (attempt : Nat)
  | pingFailed (attempt : Nat) (error : String)
  | stillAwaiting (attempt maxAttempts : Nat)
  | pingRefused (status : Http.Status)
  | creatingIndex
  | deletingIndex (index : String)
  | indexCreated (index : String)
  | indexLost (index error : String)
  | deleteAccepted (index : String)
  | createAccepted (index : String)
  | deleteRefused (status : Http.Status) (body : String)
  | createRefused (status : Http.Status) (body : String)
  | bulkRefused (status : Http.Status) (body : String)
  | bulkRejections (index : String) (failed total : Nat)
  | downloading
  | downloaded (bytes : Nat)
  | datasetParsed (records : Nat)
  | readingFile (path : String)
  | inserting
  | inserted (submitted : Nat)
  | batchFailed (batch totalBatches submitted : Nat) (firstTitle error : String)
  | batchRejections (batch rejected : Nat) (firstReason : String)
  | loadComplete (fetched submitted rejected indexed : Nat)
  | documentsRejected (rejected : Nat)
  | loadFailed (error : String)
  deriving DecidableEq, Repr

namespace Event

/-- The level of an event. -/
def level : Event → Level
  | .runFailed .. | .indexLost .. | .deleteRefused .. | .createRefused .. | .bulkRefused ..
  | .batchFailed .. | .loadFailed .. => .error
  | .bulkRejections .. | .batchRejections .. | .documentsRejected .. => .warn
  | .pingFailed .. | .pingRefused .. | .deleteAccepted .. | .createAccepted .. | .downloaded .. =>
    .debug
  | _ => .info

/-- The message of an event. -/
def message : Event → String
  | .initializing .. => "Initializing dependencies"
  | .clientCreated .. => "Created OpenSearch client"
  | .loadStarted .. => "Starting movie index load"
  | .stateChanged .. => "Run state changed"
  | .runFailed .. => "Run failed"
  | .countDiffers .. => "Index count differs from fetched records"
  | .awaitingService => "Waiting for the search service to be ready..."
  | .serviceReady .. => "Successfully connected to the search service"
  | .pingFailed .. => "Ping failed"
  | .stillAwaiting attempt maxAttempts =>
    "Waiting for the search service... (" ++ toString attempt ++ "/" ++ toString maxAttempts ++ ")"
  | .pingRefused .. => "Ping returned non-success status"
  | .creatingIndex => "Creating index..."
  | .deletingIndex .. => "Deleting existing index"
  | .indexCreated .. | .createAccepted .. => "Index created"
  | .indexLost .. => "Index was deleted but could not be recreated"
  | .deleteAccepted .. => "Index deleted"
  | .deleteRefused .. => "Delete index request failed"
  | .createRefused .. => "Create index request failed"
  | .bulkRefused .. => "Bulk request failed"
  | .bulkRejections .. => "Bulk request had rejected documents"
  | .downloading => "Downloading sample data..."
  | .downloaded .. => "Dataset downloaded"
  | .datasetParsed .. => "Dataset parsed"
  | .readingFile .. => "Reading sample data..."
  | .inserting => "Inserting data..."
  | .inserted submitted => "Inserted " ++ toString submitted ++ " records..."
  | .batchFailed .. => "Bulk request failed; remaining batches skipped"
  | .batchRejections .. => "Documents rejected in batch"
  | .loadComplete .. => "Load complete"
  | .documentsRejected .. => "Some documents were rejected by the search service"
  | .loadFailed .. => "Load failed"

/-- The fields of an event. -/
def fields : Event → List (String × FieldValue)
  | .initializing searchUrl index batchSize =>
    [("search_url", .text searchUrl), ("index", .text index), ("batch_size", .number batchSize)]
  | .clientCreated url timeoutMs => [("url", .text url), ("timeout_ms", .number timeoutMs)]
  | .loadStarted source => [("source", .text source)]
  | .stateChanged old new => [("from", .text old.name), ("to", .text new.name)]
  | .runFailed step error => [("step", .text step.name), ("error", .text error)]
  | .countDiffers fetched indexed rejected =>
    [("fetched", .number fetched), ("indexed", .number indexed), ("rejected", .number rejected)]
  | .awaitingService | .stillAwaiting .. | .creatingIndex | .downloading | .inserting
  | .inserted .. => []
  | .serviceReady attempt => [("attempt", .number attempt)]
  | .pingFailed attempt error => [("attempt", .number attempt), ("error", .text error)]
  | .pingRefused status => [("status", .text status.text)]
  | .deletingIndex index | .indexCreated index | .deleteAccepted index | .createAccepted index =>
    [("index", .text index)]
  | .indexLost index error => [("index", .text index), ("error", .text error)]
  | .deleteRefused status body | .createRefused status body | .bulkRefused status body =>
    [("status", .text status.text), ("body", .text body)]
  | .bulkRejections index failed total =>
    [("index", .text index), ("failed", .number failed), ("total", .number total)]
  | .downloaded bytes => [("bytes", .number bytes)]
  | .datasetParsed records => [("records", .number records)]
  | .readingFile path => [("path", .text path)]
  | .batchFailed batch totalBatches submitted firstTitle error =>
    [("batch", .number batch), ("total_batches", .number totalBatches),
      ("submitted", .number submitted), ("first_title", .text firstTitle), ("error", .text error)]
  | .batchRejections batch rejected firstReason =>
    [("batch", .number batch), ("rejected", .number rejected), ("first_reason", .text firstReason)]
  | .loadComplete fetched submitted rejected indexed =>
    [("fetched", .number fetched), ("submitted", .number submitted),
      ("rejected", .number rejected), ("indexed", .number indexed)]
  | .documentsRejected rejected => [("rejected", .number rejected)]
  | .loadFailed error => [("error", .text error)]

end Event

/-- An answer, with the events logged on the way and the state left behind. -/
structure Traced (σ α : Type) where
  answer : α
  events : List Event
  state : σ

end Reindex
