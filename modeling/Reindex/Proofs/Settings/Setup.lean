import Reindex.Proofs.Results
import Reindex.Proofs.Search.Link
import Reindex.Settings.Setup

/-!
# What a setup takes from the settings

A load is set up only from settings that passed their checks, and it has the client, the dataset and
the configuration that they name.
-/

namespace Reindex.Settings

open Text (isAllBlank)

variable {s : Settings} {read : Files.Reader} {setup : Setup}

/-- What the checks of the settings leave. -/
structure Valid (s : Settings) : Prop where
  batchSize : s.batchSize ≠ 0
  maxAttempts : s.maxAttempts ≠ 0
  requestTimeout : s.requestTimeout ≠ 0
  indexName : isAllBlank s.indexName = false

theorem valid_of_validate (h : s.validate = .ok ()) : s.Valid := by
  -- The checks come one after another, so each is known to have passed in the next.
  unfold validate at h
  split at h
  · cases h
  next hsize =>
    split at h
    · cases h
    next hmax =>
      split at h
      · cases h
      next htimeout =>
        split at h
        · cases h
        next hname => exact ⟨hsize, hmax, htimeout, Bool.eq_false_iff.mpr hname⟩

theorem Valid.indexName_ne_empty (h : s.Valid) : s.indexName ≠ "" := by
  intro hempty
  have hblank := h.indexName
  rw [hempty] at hblank
  exact absurd hblank (by decide)

/-- A setup, and the settings that it was made from. -/
structure SetsUp (names : Url.Names) (read : Files.Reader) (s : Settings) (setup : Setup) :
    Prop where
  valid : s.Valid
  base : ∃ url, Url.parse names s.searchUrl = .ok url ∧ setup.client.base = url.asDirectory
  dataset : s.location names = .ok setup.dataset
  name : setup.config.index.name = s.indexName
  index : s.indexConfig read = .ok setup.config.index
  readiness : setup.config.readiness = ⟨s.maxAttempts, s.retryInterval⟩
  ingest : setup.config.ingest = ⟨s.batchSize, s.pacingDelay⟩

theorem indexConfig_name {index : Search.IndexConfig} (h : s.indexConfig read = .ok index) :
    index.name = s.indexName := by
  unfold indexConfig at h
  split at h
  · cases h
    rfl
  next path _ =>
    cases hbody : mappingOf path (read path) with
    | error e =>
      rw [hbody] at h
      cases h
    | ok body =>
      rw [hbody] at h
      cases h
      rfl

theorem setsUp_of_setup {names : Url.Names} (h : s.setup names read = .ok setup) :
    SetsUp names read s setup := by
  -- The parts of a setup, in the order in which they are made.
  unfold Settings.setup at h
  obtain ⟨_, hvalid, h⟩ := bind_eq_ok h
  obtain ⟨client, hclient, h⟩ := bind_eq_ok h
  obtain ⟨dataset, hdataset, h⟩ := bind_eq_ok h
  obtain ⟨config, hconfig, h⟩ := bind_eq_ok h
  unfold runConfig at hconfig
  obtain ⟨index, hindex, hconfig⟩ := bind_eq_ok hconfig
  cases hconfig
  cases h
  exact ⟨valid_of_validate hvalid, Search.Client.connect_base (mapError_eq_ok hclient), hdataset,
    indexConfig_name hindex, hindex, rfl, rfl⟩

end Reindex.Settings
