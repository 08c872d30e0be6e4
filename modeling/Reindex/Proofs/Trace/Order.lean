import Mathlib.Data.List.Chain
import Reindex.Proofs.Trace.Load
import Reindex.Search.Engine

/-!
# The order of the calls of a load

A load pings, then works on its index.  Nothing follows a failed call, except that another ping may
follow a failed ping; and every call but the pings names the index of the load.
-/

namespace Reindex.Run

open Search (Call Engine Service)
open Dataset (Source)

/-- May `b` come right after `a`?  After a failure it may only if both are pings. -/
def MayFollow (a b : Entry) : Prop :=
  a.failed = true → a.call? = some .ping ∧ b.call? = some .ping

/-- The entry is about a call that names the index, or about no call at all. -/
def Entry.Names (index : String) (entry : Entry) : Prop :=
  ∀ c, entry.call? = some c → c.index? = some index

/-- Every entry that another one follows tells of a success. -/
abbrev SucceedsBeforeLast (t : List Entry) : Prop := t.IsChain fun a _ => a.failed = false

theorem succeedsBeforeLast_of_forall {t : List Entry} (h : ∀ a ∈ t, a.failed = false) :
    SucceedsBeforeLast t := by
  induction t with
  | nil => exact .nil
  | cons a rest ih =>
    obtain ⟨ha, hrest⟩ := List.forall_mem_cons.mp h
    exact List.isChain_cons.mpr ⟨fun _ _ => ha, ih hrest⟩

theorem succeedsBeforeLast_append {a b : List Entry} (ha : ∀ x ∈ a, x.failed = false)
    (hb : SucceedsBeforeLast b) : SucceedsBeforeLast (a ++ b) :=
  List.isChain_append.mpr
    ⟨succeedsBeforeLast_of_forall ha, hb, fun x hx _ _ => ha x (List.mem_of_mem_getLast? hx)⟩

/-! ## The parts of a load -/

theorem ProbeTrace.eq_pinged {r : Readiness} {t : List Entry} {result : Except Error Nat}
    (h : ProbeTrace r t result) : ∃ answers, t = pinged answers := by
  cases h with
  | pointless => exact ⟨[], rfl⟩
  | ready | exhausted => exact ⟨_, rfl⟩

theorem ProbeTrace.pings {r : Readiness} {t : List Entry} {result : Except Error Nat}
    (h : ProbeTrace r t result) (hmax : 1 ≤ r.maxAttempts) :
    ∃ answers, t = pinged answers ∧ 1 ≤ answers.length ∧ answers.length ≤ r.maxAttempts ∧
      ∀ attempts, result = .ok attempts → answers.getLast? = some (.ok true) := by
  cases h with
  | pointless hzero => omega
  | ready refused hrefused hlt =>
    refine ⟨_, rfl, ?_, ?_, fun _ _ => List.getLast?_concat ..⟩
    · rw [List.length_append]
      exact Nat.le_add_left ..
    · rw [List.length_append]
      exact hlt
  | exhausted refused last refusal hrefused hlast hlength =>
    refine ⟨_, rfl, ?_, ?_, fun _ h => by cases h⟩
    · rw [List.length_append]
      exact Nat.le_add_left ..
    · rw [List.length_append]
      exact Nat.le_of_eq hlength

theorem ResetTrace.succeedsBeforeLast {index : Search.IndexConfig} {t : List Entry}
    {result : Except Error Unit} (h : ResetTrace index t result) : SucceedsBeforeLast t := by
  cases h <;> simp [SucceedsBeforeLast, Entry.failed]

theorem ResetTrace.succeeds {index : Search.IndexConfig} {t : List Entry}
    (h : ResetTrace index t (.ok ())) : ∀ a ∈ t, a.failed = false := by
  cases h <;> simp [Entry.failed]

theorem ResetTrace.names {index : Search.IndexConfig} {t : List Entry}
    {result : Except Error Unit} (h : ResetTrace index t result) :
    ∀ a ∈ t, a.Names index.name := by
  cases h <;> simp [Entry.Names, Entry.call?, Call.index?]

theorem forall_mem_written {size : Nat} {index : String} {records : List Record}
    {outcomes : List Search.BulkSummary} :
    ∀ a ∈ written size index records outcomes, a.failed = false ∧ a.Names index := by
  intro a ha
  obtain ⟨i, hi, rfl⟩ := List.mem_mapIdx.mp ha
  simp [Entry.failed, Entry.Names, Entry.call?, Call.index?]

theorem InsertTrace.succeedsBeforeLast {ingest : Ingest} {index : String} {records : List Record}
    {t : List Entry} {result : Except Error IngestSummary}
    (h : InsertTrace ingest index records t result) : SucceedsBeforeLast t := by
  cases h with
  | pointless => exact .nil
  | stopped outcomes e =>
    exact succeedsBeforeLast_append (fun a ha => (forall_mem_written a ha).1) (.singleton _)
  | finished outcomes =>
    exact succeedsBeforeLast_of_forall fun a ha => (forall_mem_written a ha).1

theorem InsertTrace.succeeds {ingest : Ingest} {index : String} {records : List Record}
    {t : List Entry} {sent : IngestSummary} (h : InsertTrace ingest index records t (.ok sent)) :
    ∀ a ∈ t, a.failed = false := by
  cases h with
  | finished outcomes => exact fun a ha => (forall_mem_written a ha).1

theorem InsertTrace.names {ingest : Ingest} {index : String} {records : List Record}
    {t : List Entry} {result : Except Error IngestSummary}
    (h : InsertTrace ingest index records t result) : ∀ a ∈ t, a.Names index := by
  cases h with
  | pointless => simp
  | stopped outcomes e =>
    intro a ha
    rcases List.mem_append.mp ha with ha | ha
    · exact (forall_mem_written a ha).2
    · obtain rfl := List.mem_singleton.mp ha
      simp [Entry.Names, Entry.call?, Call.index?]
  | finished outcomes => exact fun a ha => (forall_mem_written a ha).2

/-! ## The whole load -/

/-- After the pings of a load comes nothing, or the last of them found the service ready. -/
theorem LoadTrace.cut {config : Config} {t : List Entry} {outcome : Except StepFailure Report}
    (h : LoadTrace config t outcome) :
    ∃ pings rest result, t = pings ++ rest ∧ ProbeTrace config.readiness pings result ∧
      (rest = [] ∨ ∃ attempts, result = .ok attempts) ∧ SucceedsBeforeLast rest ∧
      ∀ a ∈ rest, a.Names config.index.name := by
  have hfetched : ∀ result, Entry.Names config.index.name (.fetched result) := by
    simp [Entry.Names, Entry.call?]
  -- From the fetch on, the bulk requests and what comes after them decide.
  have hwork : ∀ {calls later : List Entry} {records : List Record},
      ResetTrace config.index calls (.ok ()) → SucceedsBeforeLast later →
        (∀ a ∈ later, a.Names config.index.name) →
        SucceedsBeforeLast (calls ++ .fetched (.ok records) :: later) ∧
          ∀ a ∈ calls ++ .fetched (.ok records) :: later, a.Names config.index.name := by
    intro calls later records hreset hlater hnames
    refine ⟨succeedsBeforeLast_append hreset.succeeds
      (List.isChain_cons.mpr ⟨fun _ _ => rfl, hlater⟩), ?_⟩
    simpa only [List.forall_mem_append, List.forall_mem_cons] using
      ⟨hreset.names, hfetched _, hnames⟩
  have hcount : ∀ {bulks : List Entry} {records : List Record} {sent : IngestSummary}
      (result : (Call.count config.index.name).Result),
      InsertTrace config.ingest config.index.name records bulks (.ok sent) →
        SucceedsBeforeLast (bulks ++ [.called (.count config.index.name) result]) ∧
          ∀ a ∈ bulks ++ [.called (.count config.index.name) result],
            a.Names config.index.name := by
    intro bulks records sent result hinsert
    refine ⟨succeedsBeforeLast_append hinsert.succeeds (.singleton _), ?_⟩
    simpa only [List.forall_mem_append, List.forall_mem_singleton] using
      ⟨hinsert.names, by simp [Entry.Names, Entry.call?, Call.index?]⟩
  cases h with
  | probing hprobe => exact ⟨_, [], _, (List.append_nil _).symm, hprobe, .inl rfl, .nil, by simp⟩
  | initializing hprobe hreset =>
    exact ⟨_, _, _, rfl, hprobe, .inr ⟨_, rfl⟩, hreset.succeedsBeforeLast, hreset.names⟩
  | fetching hprobe hreset detail =>
    refine ⟨_, _, _, rfl, hprobe, .inr ⟨_, rfl⟩,
      succeedsBeforeLast_append hreset.succeeds (.singleton _), ?_⟩
    simpa only [List.forall_mem_append, List.forall_mem_singleton] using
      ⟨hreset.names, hfetched _⟩
  | ingesting hprobe hreset hinsert =>
    exact ⟨_, _, _, rfl, hprobe, .inr ⟨_, rfl⟩,
      hwork hreset hinsert.succeedsBeforeLast hinsert.names⟩
  | verifying hprobe hreset hinsert e =>
    obtain ⟨hlast, hnames⟩ := hcount (.error e) hinsert
    exact ⟨_, _, _, rfl, hprobe, .inr ⟨_, rfl⟩, hwork hreset hlast hnames⟩
  | done hprobe hreset hinsert counted =>
    obtain ⟨hlast, hnames⟩ := hcount (.ok counted) hinsert
    exact ⟨_, _, _, rfl, hprobe, .inr ⟨_, rfl⟩, hwork hreset hlast hnames⟩

/-- No call of a load names an index but its own. -/
theorem LoadTrace.ne_index {config : Config} {t : List Entry} {outcome : Except StepFailure Report}
    (h : LoadTrace config t outcome) {n : String} (hn : n ≠ config.index.name) :
    ∀ a ∈ t, ∀ c, a.call? = some c → c.index? ≠ some n := by
  obtain ⟨pings, rest, result, rfl, hprobe, -, -, hnames⟩ := h.cut
  obtain ⟨answers, rfl⟩ := hprobe.eq_pinged
  intro a ha c hc
  rcases List.mem_append.mp ha with ha | ha
  · obtain ⟨answer, -, rfl⟩ := List.mem_map.mp ha
    cases hc
    exact (Option.some_ne_none n).symm
  · rw [hnames a ha c hc]
    exact fun heq => hn (Option.some.inj heq).symm

/-- Only a ping follows a failed ping, and nothing follows another failure. -/
theorem LoadTrace.isChain {config : Config} {t : List Entry}
    {outcome : Except StepFailure Report} (h : LoadTrace config t outcome)
    (hmax : 1 ≤ config.readiness.maxAttempts) : t.IsChain MayFollow := by
  obtain ⟨pings, rest, result, rfl, hprobe, hready, hrest, -⟩ := h.cut
  obtain ⟨answers, rfl, -, -, hlast⟩ := hprobe.pings hmax
  have hpings : ∀ a ∈ pinged answers, a.call? = some .ping := by
    simp [pinged, Entry.call?]
  -- Among the pings everything may follow; after them nothing comes after a failure.
  refine List.isChain_append.mpr ⟨?_, ?_, ?_⟩
  · exact List.Pairwise.isChain (List.pairwise_iff_forall_sublist.mpr fun {a b} hab _ =>
      ⟨hpings a (hab.subset (by simp)), hpings b (hab.subset (by simp))⟩)
  · exact hrest.imp fun a _ ha hfailed => absurd (ha.symm.trans hfailed) Bool.false_ne_true
  · rintro a ha b hb hfailed
    rcases hready with rfl | ⟨attempts, rfl⟩
    · simp at hb
    · -- The last ping was answered with `true`, so it did not fail.
      rw [pinged, List.getLast?_map, hlast attempts rfl] at ha
      obtain rfl := Option.mem_some.mp ha
      cases hfailed

/-- The calls are some pings, as many as are allowed at most, and then calls about the index. -/
theorem LoadTrace.calls {config : Config} {t : List Entry}
    {outcome : Except StepFailure Report} (h : LoadTrace config t outcome)
    (hmax : 1 ≤ config.readiness.maxAttempts) :
    ∃ pings calls, 1 ≤ pings ∧ pings ≤ config.readiness.maxAttempts ∧
      t.filterMap Entry.call? = List.replicate pings .ping ++ calls ∧
      ∀ c ∈ calls, c.index? = some config.index.name := by
  obtain ⟨pings, rest, result, rfl, hprobe, -, -, hnames⟩ := h.cut
  obtain ⟨answers, rfl, hpos, hle, -⟩ := hprobe.pings hmax
  refine ⟨answers.length, rest.filterMap Entry.call?, hpos, hle, ?_, ?_⟩
  · rw [List.filterMap_append, calls_pinged]
  · intro c hc
    obtain ⟨a, ha, hcall⟩ := List.mem_filterMap.mp hc
    exact hnames a ha c hcall

/-- The calls and fetches of a load, against any service and any source: they are those of
`LoadTrace`, with the answers that the service and the source give; only a ping follows a failed
call, and only after a ping; and all calls but the pings name the index of the load. -/
theorem contacts_of_load {σ : Type} (service : Service σ) (source : Source σ) (config : Config)
    (name : String) (start : State) (s : σ) (hmax : 1 ≤ config.readiness.maxAttempts) :
    let run := (load config name start).run service source s
    (∃ outcome, LoadTrace config run.contacts outcome ∧
        run.result = outcome.mapError StepFailure.error) ∧
      Replays service source s run.contacts run.state ∧
      run.contacts.IsChain MayFollow ∧
      ∃ pings calls, 1 ≤ pings ∧ pings ≤ config.readiness.maxAttempts ∧
        run.calls = List.replicate pings .ping ++ calls ∧
        ∀ c ∈ calls, c.index? = some config.index.name := by
  intro run
  obtain ⟨⟨outcome, htrace, hresult⟩, hreplays⟩ :=
    exists_loadTrace service source config name start s
  obtain ⟨pings, calls, hpos, hle, hcalls, hnames⟩ := htrace.calls hmax
  refine ⟨⟨outcome, htrace, hresult⟩, hreplays, htrace.isChain hmax, pings, calls, hpos, hle, ?_,
    hnames⟩
  exact (filterMap_call?_contacts run.journal).symm.trans hcalls

/-- An engine that holds an index of films already, is ready for its second ping and rejects one
document of every bulk request. -/
def lateEngine : Engine where
  readyOnPing := some 2
  failBulkOnCall := none
  failCreate := false
  rejectPerBatch := 1
  indices := [("movies", ⟨.null, [⟨[]⟩]⟩)]
  pings := 0
  bulkCalls := []
  calls := []

/-- At most three pings, and two records to a bulk request. -/
def smallConfig : Config := ⟨.movies "movies", ⟨3, 0⟩, ⟨2, 0⟩⟩

/-- Three records without members. -/
def threeRecords : List Record := List.replicate 3 ⟨[]⟩

theorem contacts_of_late_load :
    let run := (load smallConfig "memory" .idle).run Engine.service
      (.constant (.ok threeRecords)) lateEngine
    1 ≤ smallConfig.readiness.maxAttempts ∧
      run.calls.map Call.kind = [.ping, .ping, .exists, .delete, .create, .bulk, .bulk, .count] ∧
      (∃ outcome, LoadTrace smallConfig run.contacts outcome ∧
        run.result = outcome.mapError StepFailure.error) ∧
      run.contacts.IsChain MayFollow :=
  have h := contacts_of_load Engine.service (.constant (.ok threeRecords)) smallConfig "memory"
    .idle lateEngine (by decide)
  ⟨by decide, by decide +kernel, h.1, h.2.2.1⟩

end Reindex.Run
