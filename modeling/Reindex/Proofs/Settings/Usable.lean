import Reindex.Proofs.Settings.Setup

/-!
# Which settings can be used

A load can be set up from some settings exactly if each of them is of use by itself.
-/

namespace Reindex.Settings

variable {s : Settings} {names : Url.Names} {read : Files.Reader}

/-- Settings from which a load can be set up. -/
structure Usable (names : Url.Names) (read : Files.Reader) (s : Settings) : Prop where
  batchSize : 1 ≤ s.batchSize
  maxAttempts : 1 ≤ s.maxAttempts
  requestTimeout : 1 ≤ s.requestTimeout
  /-- The index has a name that is not blank. -/
  indexName : Text.isAllBlank s.indexName = false
  searchUrl : ∃ url, Url.parse names s.searchUrl = .ok url
  /-- A file that is set holds a JSON object. -/
  mapping : ∀ path, s.mappingFile = some path →
    ∃ content members, read path = .ok content ∧ Json.parse content = .ok (.object members)
  /-- The URL of the dataset does not matter if a file is set. -/
  dataset : s.datasetFile ≠ none ∨ ∃ url, Url.parse names s.datasetUrl = .ok url

theorem Valid.validate (h : s.Valid) : s.validate = .ok () := by
  unfold Settings.validate
  rw [if_neg h.batchSize, if_neg h.maxAttempts, if_neg h.requestTimeout,
    if_neg (by simp [h.indexName])]

theorem exists_location_iff :
    (∃ location, s.location names = .ok location) ↔
      s.datasetFile ≠ none ∨ ∃ url, Url.parse names s.datasetUrl = .ok url := by
  unfold location Dataset.Location.ofUrl
  cases s.datasetFile with
  | some path => simp
  | none =>
    cases hparse : Url.parse names s.datasetUrl with
    | ok url => exact iff_of_true ⟨_, rfl⟩ (.inr ⟨url, rfl⟩)
    | error e => exact iff_of_false nofun (by simp)

theorem exists_mapping_iff (path : String) :
    (∃ body, mappingOf path (read path) = .ok body) ↔
      ∃ content members, read path = .ok content ∧
        Json.parse content = .ok (.object members) := by
  cases hread : read path with
  | error e => exact iff_of_false nofun (by simp)
  | ok content =>
    unfold mappingOf
    dsimp only
    cases hparse : Json.parse content with
    | error e => exact iff_of_false nofun (by simp [hparse])
    | ok body =>
      cases body with
      | object members => exact iff_of_true ⟨_, rfl⟩ ⟨content, members, rfl, hparse⟩
      | null | bool | number | string | array =>
        exact iff_of_false nofun (by simp [hparse])

theorem exists_indexConfig_iff :
    (∃ index, s.indexConfig read = .ok index) ↔
      ∀ path, s.mappingFile = some path →
        ∃ content members, read path = .ok content ∧
          Json.parse content = .ok (.object members) := by
  unfold indexConfig
  cases hfile : s.mappingFile with
  | none => exact iff_of_true ⟨_, rfl⟩ nofun
  | some path =>
    simp only [Option.some.injEq, forall_eq']
    rw [← exists_mapping_iff]
    cases mappingOf path (read path) with
    | error e => exact iff_of_false nofun nofun
    | ok body => exact iff_of_true ⟨_, rfl⟩ ⟨body, rfl⟩

/-- A load can be set up exactly from usable settings. -/
theorem exists_setup_iff :
    (∃ setup, s.setup names read = .ok setup) ↔ s.Usable names read := by
  constructor
  · rintro ⟨setup, hsetup⟩
    have h := setsUp_of_setup hsetup
    obtain ⟨url, hurl, -⟩ := h.base
    exact ⟨Nat.pos_of_ne_zero h.valid.batchSize, Nat.pos_of_ne_zero h.valid.maxAttempts,
      Nat.pos_of_ne_zero h.valid.requestTimeout, h.valid.indexName, ⟨url, hurl⟩,
      exists_indexConfig_iff.mp ⟨_, h.index⟩, exists_location_iff.mp ⟨_, h.dataset⟩⟩
  · intro h
    have hvalid : s.validate = .ok () :=
      Valid.validate ⟨Nat.ne_of_gt h.batchSize, Nat.ne_of_gt h.maxAttempts,
        Nat.ne_of_gt h.requestTimeout, h.indexName⟩
    obtain ⟨url, hurl⟩ := h.searchUrl
    obtain ⟨location, hlocation⟩ := exists_location_iff.mpr h.dataset
    obtain ⟨index, hindex⟩ := exists_indexConfig_iff.mpr h.mapping
    unfold Settings.setup Search.Client.connect runConfig
    rw [hvalid, hurl, hlocation, hindex]
    exact ⟨_, rfl⟩

/-! ## Settings that cannot be used -/

variable {err : LoadError}

theorem exitCode_of_validate (h : s.validate = .error err) : err.exitCode = 64 := by
  unfold Settings.validate at h
  -- All four checks refuse in the same way.
  split at h
  · cases h; rfl
  · split at h
    · cases h; rfl
    · split at h
      · cases h; rfl
      · split at h
        · cases h; rfl
        · cases h

theorem exitCode_of_location (h : s.location names = .error err) : err.exitCode = 64 := by
  unfold location at h
  split at h
  · cases h
  · obtain ⟨detail, -, rfl⟩ := mapError_eq_error h
    rfl

theorem exitCode_of_mapping {path : String} {content : Except FileError Bytes}
    (h : mappingOf path content = .error err) : err.exitCode = 64 := by
  unfold mappingOf at h
  split at h
  · cases h; rfl
  · split at h
    · cases h; rfl
    · split at h
      · cases h
      · cases h; rfl

theorem exitCode_of_runConfig (h : s.runConfig read = .error err) : err.exitCode = 64 := by
  unfold runConfig indexConfig at h
  rcases bind_eq_error h with h | ⟨index, -, h⟩
  · split at h
    · cases h
    next path _ =>
      cases hbody : mappingOf path (read path) with
      | error e =>
        rw [hbody] at h
        obtain rfl := Except.error.inj h
        exact exitCode_of_mapping hbody
      | ok body =>
        rw [hbody] at h
        cases h
  · cases h

/-- Whatever is wrong with the settings, the exit code is the same. -/
theorem exitCode_of_setup_error (h : s.setup names read = .error err) : err.exitCode = 64 := by
  unfold Settings.setup at h
  rcases bind_eq_error h with h | ⟨_, -, h⟩
  · exact exitCode_of_validate h
  rcases bind_eq_error h with h | ⟨client, -, h⟩
  · obtain ⟨cause, -, rfl⟩ := mapError_eq_error h
    rfl
  rcases bind_eq_error h with h | ⟨location, -, h⟩
  · exact exitCode_of_location h
  rcases bind_eq_error h with h | ⟨config, -, h⟩
  · exact exitCode_of_runConfig h
  · cases h

end Reindex.Settings
