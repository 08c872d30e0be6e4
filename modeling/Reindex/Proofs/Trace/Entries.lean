import Reindex.Proofs.Results
import Reindex.Proofs.Trace.Order

/-!
# The single steps of a load

What can stand anywhere in the trace of a load, whatever stands around it.
-/

namespace Reindex

namespace Run

open Search (Call Service)
open Dataset (Source)

/-- What one entry of a load's trace is, given the whole trace and how the load ends. -/
inductive LoadEntry (config : Config) (t : List Entry) (outcome : Except StepFailure Report) :
    Entry → Prop where
  | ping (answer : Call.Result .ping) : LoadEntry config t outcome (.called .ping answer)
  | «exists» (answer : (Call.exists config.index.name).Result) :
      LoadEntry config t outcome (.called (.exists config.index.name) answer)
  | delete (answer : (Call.delete config.index.name).Result) :
      LoadEntry config t outcome (.called (.delete config.index.name) answer)
  | create (answer : (Call.create config.index.name config.index.body).Result) :
      LoadEntry config t outcome (.called (.create config.index.name config.index.body) answer)
  | fetched (result : Except Run.Error (List Record)) : LoadEntry config t outcome (.fetched result)
  | bulk {records batch : List Record} (hfetched : .fetched (.ok records) ∈ t)
      (hbatch : batch ∈ batches config.ingest.batchSize records)
      (answer : (Call.bulk config.index.name batch).Result) :
      LoadEntry config t outcome (.called (.bulk config.index.name batch) answer)
  | uncounted (e : Search.Error) :
      LoadEntry config t outcome (.called (.count config.index.name) (.error e))
  | counted {report : Report} (houtcome : outcome = .ok report) :
      LoadEntry config t outcome (.called (.count config.index.name) (.ok report.indexedCount))

variable {config : Config} {t : List Entry} {outcome : Except StepFailure Report}

theorem ProbeTrace.entries {r : Readiness} {pings : List Entry} {result : Except Error Nat}
    (h : ProbeTrace r pings result) : ∀ a ∈ pings, LoadEntry config t outcome a := by
  obtain ⟨answers, rfl⟩ := h.eq_pinged
  intro a ha
  obtain ⟨answer, -, rfl⟩ := List.mem_map.mp ha
  exact .ping answer

theorem ResetTrace.entries {calls : List Entry} {result : Except Error Unit}
    (h : ResetTrace config.index calls result) : ∀ a ∈ calls, LoadEntry config t outcome a := by
  cases h with
  | unclear e => exact List.forall_mem_singleton.mpr (.exists _)
  | undeleted e =>
    exact List.forall_mem_cons.mpr ⟨.exists _, List.forall_mem_singleton.mpr (.delete _)⟩
  | uncreated e =>
    exact List.forall_mem_cons.mpr ⟨.exists _, List.forall_mem_singleton.mpr (.create _)⟩
  | lost e =>
    exact List.forall_mem_cons.mpr ⟨.exists _,
      List.forall_mem_cons.mpr ⟨.delete _, List.forall_mem_singleton.mpr (.create _)⟩⟩
  | created =>
    exact List.forall_mem_cons.mpr ⟨.exists _, List.forall_mem_singleton.mpr (.create _)⟩
  | recreated =>
    exact List.forall_mem_cons.mpr ⟨.exists _,
      List.forall_mem_cons.mpr ⟨.delete _, List.forall_mem_singleton.mpr (.create _)⟩⟩

theorem InsertTrace.bulks {ingest : Ingest} {index : String} {records : List Record}
    {bulks : List Entry} {result : Except Error IngestSummary}
    (h : InsertTrace ingest index records bulks result) :
    ∀ a ∈ bulks, ∃ batch ∈ batches ingest.batchSize records, ∃ answer,
      a = .called (.bulk index batch) answer := by
  intro a ha
  cases h with
  | pointless => exact absurd ha List.not_mem_nil
  | stopped outcomes e hsize hlt =>
    rcases List.mem_append.mp ha with ha | ha
    · obtain ⟨i, hi, rfl⟩ := List.mem_mapIdx.mp ha
      exact ⟨_, piece_mem_batches hsize (Nat.lt_trans hi hlt), _, rfl⟩
    · obtain rfl := List.mem_singleton.mp ha
      exact ⟨_, piece_mem_batches hsize hlt, _, rfl⟩
  | finished outcomes hsize hlength =>
    obtain ⟨i, hi, rfl⟩ := List.mem_mapIdx.mp ha
    exact ⟨_, piece_mem_batches hsize (hlength ▸ hi), _, rfl⟩

/-- Every entry of a trace is one of those. -/
theorem LoadTrace.entries (h : LoadTrace config t outcome) :
    ∀ a ∈ t, LoadEntry config t outcome a := by
  have hbulks : ∀ {records : List Record} {bulks : List Entry}
      {result : Except Error IngestSummary},
      InsertTrace config.ingest config.index.name records bulks result →
        .fetched (.ok records) ∈ t → ∀ a ∈ bulks, LoadEntry config t outcome a := by
    intro records bulks result hinsert hfetched a ha
    obtain ⟨batch, hbatch, answer, rfl⟩ := hinsert.bulks a ha
    exact .bulk hfetched hbatch answer
  cases h with
  | probing hprobe => exact hprobe.entries
  | initializing hprobe hreset =>
    exact List.forall_mem_append.mpr ⟨hprobe.entries, hreset.entries⟩
  | fetching hprobe hreset detail =>
    simp only [List.forall_mem_append, List.forall_mem_singleton]
    exact ⟨hprobe.entries, hreset.entries, .fetched _⟩
  | ingesting hprobe hreset hinsert =>
    have hinserted := hbulks hinsert (by simp)
    simp only [List.forall_mem_append, List.forall_mem_cons]
    exact ⟨hprobe.entries, hreset.entries, .fetched _, hinserted⟩
  | verifying hprobe hreset hinsert e =>
    have hinserted := hbulks hinsert (by simp)
    simp only [List.forall_mem_append, List.forall_mem_cons]
    exact ⟨hprobe.entries, hreset.entries, .fetched _, hinserted, .uncounted e, by simp⟩
  | done hprobe hreset hinsert counted =>
    have hinserted := hbulks hinsert (by simp)
    simp only [List.forall_mem_append, List.forall_mem_cons]
    exact ⟨hprobe.entries, hreset.entries, .fetched _, hinserted, .counted rfl, by simp⟩

/-! ## The dataset -/

/-- Is the entry about the dataset? -/
def Entry.isFetched : Entry → Bool
  | .fetched _ => true
  | _ => false

theorem ProbeTrace.not_fetched {r : Readiness} {result : Except Error Nat}
    (h : ProbeTrace r t result) (answer : Except Run.Error (List Record)) :
    .fetched answer ∉ t := by
  obtain ⟨answers, rfl⟩ := h.eq_pinged
  intro hmem
  obtain ⟨_, -, heq⟩ := List.mem_map.mp hmem
  cases heq

theorem ResetTrace.not_fetched {index : Search.IndexConfig} {result : Except Error Unit}
    (h : ResetTrace index t result) (answer : Except Run.Error (List Record)) :
    .fetched answer ∉ t := by
  cases h <;> simp

theorem InsertTrace.not_fetched {ingest : Ingest} {index : String} {records : List Record}
    {result : Except Error IngestSummary} (h : InsertTrace ingest index records t result)
    (answer : Except Run.Error (List Record)) : .fetched answer ∉ t := by
  intro hmem
  obtain ⟨_, -, _, heq⟩ := h.bulks _ hmem
  cases heq

theorem countP_isFetched (h : ∀ answer, .fetched answer ∉ t) : t.countP Entry.isFetched = 0 := by
  apply List.countP_eq_zero.mpr
  intro entry hentry hfetched
  cases entry with
  | fetched answer => exact h answer hentry
  | called | paused | logged => cases hfetched

/-- The dataset is fetched once at most. -/
theorem LoadTrace.fetched_once (h : LoadTrace config t outcome) :
    t.countP Entry.isFetched ≤ 1 := by
  have hcalled : ∀ (c : Call) (answer : c.Result), Entry.isFetched (.called c answer) = false :=
    fun _ _ => rfl
  have hfetched : ∀ answer, Entry.isFetched (.fetched answer) = true := fun _ => rfl
  cases h with
  | probing hprobe => simp [countP_isFetched hprobe.not_fetched]
  | initializing hprobe hreset =>
    simp [countP_isFetched hprobe.not_fetched, countP_isFetched hreset.not_fetched]
  | fetching hprobe hreset =>
    simp [countP_isFetched hprobe.not_fetched, countP_isFetched hreset.not_fetched, hfetched]
  | ingesting hprobe hreset hinsert | verifying hprobe hreset hinsert
  | done hprobe hreset hinsert =>
    simp [countP_isFetched hprobe.not_fetched, countP_isFetched hreset.not_fetched,
      countP_isFetched hinsert.not_fetched, hfetched, hcalled]

/-- What is fetched on the way has what all answers of the source have. -/
theorem fetched_of_replays {σ : Type} {service : Service σ} {source : Source σ}
    {P : Except Run.Error (List Record) → Prop} (hsource : ∀ s, P (source.fetch s).answer)
    {s s' : σ} (h : Replays service source s t s') {result : Except Run.Error (List Record)}
    (hmem : .fetched result ∈ t) : P result := by
  induction t generalizing s with
  | nil => exact absurd hmem List.not_mem_nil
  | cons entry rest ih =>
    cases entry with
    | called c answer => exact ih h.2 (by simpa using hmem)
    | fetched answer =>
      rcases List.mem_cons.mp hmem with heq | hmem
      · cases heq
        rw [h.1]
        exact hsource s
      · exact ih h.2 hmem
    | paused ms => exact ih h (by simpa using hmem)
    | logged event => exact ih h (by simpa using hmem)

/-- A constant source is all that a run fetches. -/
theorem eq_of_fetched {σ : Type} {service : Service σ} {dataset : Except Run.Error (List Record)}
    {s s' : σ} (h : Replays service (.constant dataset) s t s')
    {result : Except Run.Error (List Record)} (hmem : .fetched result ∈ t) : result = dataset :=
  fetched_of_replays (P := (· = dataset)) (fun _ => rfl) h hmem

end Run

/-! ## The errors of sources -/

namespace Dataset

/-- All errors of the source are those of fetching. -/
def Source.OnlyFetchErrors {σ : Type} (source : Source σ) : Prop :=
  ∀ s err, (source.fetch s).answer = .error err → ∃ detail, err = .fetch detail

theorem onlyFetchErrors_fetching {σ : Type} (location : String)
    (fetch : σ → Traced σ (Except String (List Record))) :
    (Source.fetching location fetch).OnlyFetchErrors :=
  fun _ _ h => (mapError_eq_error h).imp fun _ h => h.2

theorem onlyFetchErrors_ofLocation {τ : Type} (read : Files.Reader) (server : Http.Server τ)
    (location : Location) : (Source.ofLocation read server location).OnlyFetchErrors := by
  cases location with
  | file | web => exact onlyFetchErrors_fetching _ _

theorem Source.OnlyFetchErrors.of_replays {σ : Type} {service : Search.Service σ}
    {source : Source σ} (hsource : source.OnlyFetchErrors) {t : List Run.Entry} {s s' : σ}
    (h : Run.Replays service source s t s') {err : Run.Error} (hmem : .fetched (.error err) ∈ t) :
    ∃ detail, err = .fetch detail :=
  Run.fetched_of_replays
    (P := fun answer => ∀ err, answer = .error err → ∃ detail, err = .fetch detail)
    hsource h hmem err rfl

end Dataset

end Reindex
