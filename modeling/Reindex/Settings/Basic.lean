import Reindex.Files
import Reindex.Json.Reader
import Reindex.Run.Load
import Reindex.Text.Basic

/-!
# Settings

What can be set for a load, which settings are refused, and the configuration of the load that they
lead to.
-/

namespace Reindex

/-- The settings of a load.  Times are in milliseconds, the timeout in seconds. -/
structure Settings where
  searchUrl : String
  indexName : String
  mappingFile : Option String
  datasetUrl : String
  datasetFile : Option String
  batchSize : Nat
  pacingDelay : Nat
  maxAttempts : Nat
  retryInterval : Nat
  requestTimeout : Nat
  deriving DecidableEq, Repr

namespace Settings

/-- The public copy of the dataset. -/
def defaultDatasetUrl : String :=
  "https://raw.githubusercontent.com/prust/wikipedia-movie-data/master/movies.json"

/-- The default settings. -/
def default : Settings where
  searchUrl := "http://localhost:9200"
  indexName := Search.IndexConfig.defaultName
  mappingFile := none
  datasetUrl := defaultDatasetUrl
  datasetFile := none
  batchSize := Run.Ingest.default.batchSize
  pacingDelay := Run.Ingest.default.pacing
  maxAttempts := Run.Readiness.default.maxAttempts
  retryInterval := Run.Readiness.default.interval
  requestTimeout := 30

/-- The timeout of a request in milliseconds. -/
def timeoutMs (s : Settings) : Nat := s.requestTimeout * 1000

/-- Refuses settings that no load can run with. -/
def validate (s : Settings) : Except LoadError Unit :=
  if s.batchSize = 0 then .error (.config "batch size must be at least 1")
  else if s.maxAttempts = 0 then .error (.config "max attempts must be at least 1")
  else if s.requestTimeout = 0 then .error (.config "request timeout must be at least 1 second")
  else if Text.isAllBlank s.indexName then .error (.config "index name must not be empty")
  else .ok ()

/-- The settings and mappings that a file holds. -/
def mappingOf (path : String) : Except FileError Bytes → Except LoadError Json
  | .error e => .error (.config ("Failed to read mapping file " ++ path ++ ": " ++ e.message))
  | .ok content =>
    match Json.parse content with
    | .error e => .error (.config ("Invalid mapping file " ++ path ++ ": " ++ e.message))
    | .ok body =>
      if body.isObject then .ok body
      else .error (.config ("Mapping file " ++ path ++ " must contain a JSON object"))

/-- The target index: with the mapping of the file that is set, or with the built-in one. -/
def indexConfig (read : Files.Reader) (s : Settings) : Except LoadError Search.IndexConfig :=
  match s.mappingFile with
  | none => .ok (.movies s.indexName)
  | some path => (mappingOf path (read path)).map (⟨s.indexName, ·⟩)

/-- The configuration of the load. -/
def runConfig (read : Files.Reader) (s : Settings) : Except LoadError Run.Config := do
  let index ← s.indexConfig read
  return ⟨index, ⟨s.maxAttempts, s.retryInterval⟩, ⟨s.batchSize, s.pacingDelay⟩⟩

end Settings

end Reindex
