import Reindex.Search.Client
import Reindex.Settings.Flag

/-!
# From settings to a load

All that a load needs is made from the settings before anything is sent: the client, the place of
the dataset, and the configuration.
-/

namespace Reindex

/-- A load that is ready to start. -/
structure Setup where
  client : Search.Client
  dataset : Dataset.Location
  config : Run.Config
  deriving Repr

namespace Settings

/-- The number that a 64-bit field of the log shows. -/
def logged (n : Nat) : Nat := n % (maxWord + 1)

/-- The place of the dataset: the file that is set, or else the URL. -/
def location (names : Url.Names) (s : Settings) : Except LoadError Dataset.Location :=
  match s.datasetFile with
  | some path => .ok (.file path)
  | none => (Dataset.Location.ofUrl names s.datasetUrl).mapError fun detail => .run (.config detail)

/-- The load that the settings describe, or what is wrong with them. -/
def setup (names : Url.Names) (read : Files.Reader) (s : Settings) : Except LoadError Setup := do
  s.validate
  let client ← (Search.Client.connect names s.searchUrl).mapError .search
  let dataset ← s.location names
  let config ← s.runConfig read
  return ⟨client, dataset, config⟩

/-- What is logged while a load is set up. -/
def setupEvents (names : Url.Names) (s : Settings) : List Event :=
  match s.validate, Search.Client.connect names s.searchUrl with
  | .error _, _ => []
  | .ok _, .error _ => [.initializing s.searchUrl s.indexName s.batchSize]
  | .ok _, .ok _ =>
    [.initializing s.searchUrl s.indexName s.batchSize,
      .clientCreated s.searchUrl (logged s.timeoutMs)]

end Settings

namespace Setup

/-- The procedure of the load. -/
def procedure (setup : Setup) : Run.Procedure Run.Error Run.Report :=
  Run.load setup.config setup.dataset.text .idle

/-- Runs the load against a server. -/
def run {τ : Type} (setup : Setup) (read : Files.Reader) (server : Http.Server τ)
    (x : Http.Exchange τ) : Run.Outcome (Http.Exchange τ) Run.Error Run.Report :=
  setup.procedure.run (setup.client.service server)
    (Dataset.Source.ofLocation read server setup.dataset) x

end Setup

end Reindex
