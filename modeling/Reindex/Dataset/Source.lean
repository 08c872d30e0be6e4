import Reindex.Dataset.Record
import Reindex.Files
import Reindex.Http.Exchange
import Reindex.Log.Event
import Reindex.Run.Error
import Reindex.Url.Reader

/-!
# Where a dataset comes from

A source gives the whole dataset at once, or the error that ends the load.  A dataset is found in a
file or at a URL; both are read the same way once its bytes are there.
-/

namespace Reindex.Dataset

/-- A source with states `σ`. -/
structure Source (σ : Type) where
  /-- The source's name in the log. -/
  location : String
  fetch : σ → Traced σ (Except Run.Error (List Record))

/-- Where a dataset is found. -/
inductive Location where
  | file (path : String)
  | web (url : Url)
  deriving DecidableEq, Repr

/-- A location in the log. -/
def Location.text : Location → String
  | .file path => path
  | .web url => url.text

/-- The location that a URL names, or what is wrong with it. -/
def Location.ofUrl (names : Url.Names) (text : String) : Except String Location :=
  match Url.parse names text with
  | .ok url => .ok (.web url)
  | .error e => .error ("Invalid dataset URL " ++ text ++ ": " ++ e.message)

/-- The request for the dataset at a URL. -/
def request (url : Url) : Http.Request := ⟨.get, url, none, []⟩

/-- The dataset of a file whose content was read. -/
def ofFile (path : String) : Except FileError Bytes → Except String (List Record)
  | .error e => .error ("Failed to read " ++ path ++ ": " ++ e.message)
  | .ok content => parse content

/-- The dataset of a body, and what is logged about it. -/
def ofBody (body : Bytes) : Except String (List Record) × List Event :=
  match parse body with
  | .error e => (.error e, [.downloaded body.length])
  | .ok records => (.ok records, [.downloaded body.length, .datasetParsed records.length])

/-- The dataset that a request for it brought, and what is logged about it. -/
def ofAnswer (url : Url) :
    Except Http.Failure Http.Response → Except String (List Record) × List Event
  | .error f => (.error ("Request error: " ++ f.message url), [])
  | .ok r =>
    if r.status.isSuccess then
      match r.body? with
      | some body => ofBody body
      | none => (.error "Failed to read body: error decoding response body", [])
    else (.error ("HTTP " ++ r.status.text), [])

namespace Source

/-- A source that always gives the same. -/
def constant {σ : Type} (result : Except Run.Error (List Record)) : Source σ where
  location := "memory"
  fetch s := ⟨result, [], s⟩

/-- A source all of whose errors are those of fetching. -/
def fetching {σ : Type} (location : String)
    (fetch : σ → Traced σ (Except String (List Record))) : Source σ where
  location := location
  fetch s :=
    let reply := fetch s
    ⟨reply.answer.mapError .fetch, reply.events, reply.state⟩

/-- The dataset in a file. -/
def file {σ : Type} (read : Files.Reader) (path : String) : Source σ :=
  fetching path fun s => ⟨ofFile path (read path), [.readingFile path], s⟩

/-- The dataset at a URL. -/
def http {τ : Type} (server : Http.Server τ) (url : Url) : Source (Http.Exchange τ) :=
  fetching url.text fun x =>
    let (answer, after) := x.send server (request url)
    let (result, events) := ofAnswer url answer
    ⟨result, .downloading :: events, after⟩

/-- The source for a location. -/
def ofLocation {τ : Type} (read : Files.Reader) (server : Http.Server τ) :
    Location → Source (Http.Exchange τ)
  | .file path => file read path
  | .web url => http server url

end Source

end Reindex.Dataset
