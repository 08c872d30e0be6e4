import Reindex.Settings.Basic
import Reindex.Text.Basic

/-!
# Flags

Each setting can be given by a flag or by a variable of the environment.
-/

namespace Reindex

/-- Why a command line is refused, or help was asked for. -/
inductive Usage where
  | displayHelp
  | tooManyValues
  | unknownArgument
  | invalidValue
  | argumentConflict
  | valueValidation
  deriving DecidableEq, Repr

/-- The exit code of a command line that leads to no load. -/
def Usage.exitCode : Usage → UInt8
  | .displayHelp => 0
  | _ => Run.Error.configExit

namespace Settings

/-- What can be set, in the order in which the variables are looked at. -/
inductive Flag where
  | searchUrl
  | indexName
  | mappingFile
  | datasetUrl
  | datasetFile
  | batchSize
  | pacingDelay
  | maxAttempts
  | retryInterval
  | requestTimeout
  deriving DecidableEq, Repr

namespace Flag

/-- All flags, in their order. -/
def all : List Flag :=
  [.searchUrl, .indexName, .mappingFile, .datasetUrl, .datasetFile, .batchSize, .pacingDelay,
    .maxAttempts, .retryInterval, .requestTimeout]

/-- The name of a flag, after the two hyphens. -/
def name : Flag → String
  | .searchUrl => "search-url"
  | .indexName => "index-name"
  | .mappingFile => "mapping-file"
  | .datasetUrl => "dataset-url"
  | .datasetFile => "dataset-file"
  | .batchSize => "batch-size"
  | .pacingDelay => "pacing-delay-ms"
  | .maxAttempts => "max-attempts"
  | .retryInterval => "retry-interval-ms"
  | .requestTimeout => "request-timeout-secs"

/-- The variable that is looked at when the flag is not given. -/
def variableName : Flag → String
  | .searchUrl => "OPENSEARCH_URL"
  | .indexName => "INDEX_NAME"
  | .mappingFile => "MAPPING_FILE"
  | .datasetUrl => "DATASET_URL"
  | .datasetFile => "DATASET_FILE"
  | .batchSize => "BATCH_SIZE"
  | .pacingDelay => "PACING_DELAY_MS"
  | .maxAttempts => "READINESS_MAX_ATTEMPTS"
  | .retryInterval => "READINESS_INTERVAL_MS"
  | .requestTimeout => "REQUEST_TIMEOUT_SECS"

/-- What a flag sets. -/
def help : Flag → String
  | .searchUrl => "Search service URL"
  | .indexName => "Index to (re)create and load"
  | .mappingFile => "JSON file with the create-index body, replacing the built-in movie mapping"
  | .datasetUrl => "URL of the dataset (a JSON array of movie objects)"
  | .datasetFile => "Read the dataset from a local file instead of downloading it"
  | .batchSize => "Records per bulk request"
  | .pacingDelay => "Pause between bulk requests, in milliseconds"
  | .maxAttempts => "Pings before giving up on the search service"
  | .retryInterval => "Pause between failed pings, in milliseconds"
  | .requestTimeout => "Timeout for each request to the search service, in seconds"

/-- The flag of a name. -/
def ofName? (name : String) : Option Flag := all.find? (·.name == name)

end Flag

/-- A number up to `limit`, with an optional plus sign. -/
def number? (limit : Nat) (text : String) : Option Nat :=
  (match text.toList with
    | '+' :: digits => Text.decimal? digits
    | digits => Text.decimal? digits).filter (· ≤ limit)

/-- A number up to `limit` that may be written as minus zero. -/
def signedNumber? (limit : Nat) (text : String) : Option Nat :=
  match text.toList with
  | '-' :: digits => (Text.decimal? digits).filter (· == 0)
  | _ => number? limit text

/-- The largest 64-bit word. -/
def maxWord : Nat := 0xFFFFFFFFFFFFFFFF

/-- The largest 32-bit word. -/
def maxHalfWord : Nat := 0xFFFFFFFF

/-- A number that must be there. -/
def numeric (n : Option Nat) : Except Usage Nat :=
  match n with
  | some n => .ok n
  | none => .error .valueValidation

/-- The path of a file, which cannot be empty. -/
def filePath (text : String) : Except Usage (Option String) :=
  if text = "" then .error .invalidValue else .ok (some text)

/-- The settings with the value of one flag. -/
def set (s : Settings) (flag : Flag) (value : String) : Except Usage Settings := do
  match flag with
  | .searchUrl => return { s with searchUrl := value }
  | .indexName => return { s with indexName := value }
  | .mappingFile => return { s with mappingFile := ← filePath value }
  | .datasetUrl => return { s with datasetUrl := value }
  | .datasetFile => return { s with datasetFile := ← filePath value }
  | .batchSize => return { s with batchSize := ← numeric (number? maxWord value) }
  | .pacingDelay => return { s with pacingDelay := ← numeric (number? maxWord value) }
  | .maxAttempts => return { s with maxAttempts := ← numeric (signedNumber? maxHalfWord value) }
  | .retryInterval => return { s with retryInterval := ← numeric (number? maxWord value) }
  | .requestTimeout => return { s with requestTimeout := ← numeric (number? maxWord value) }

end Settings

end Reindex
