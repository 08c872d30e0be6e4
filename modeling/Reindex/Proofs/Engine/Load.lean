import Reindex.Proofs.Engine.Steps
import Reindex.Proofs.Results
import Reindex.Proofs.Trace.Order

/-!
# Loads on an engine

When an engine lets a load through, what the load leaves in it and reports then, and what each error
says about the index that a failed load leaves behind.
-/

namespace Reindex.Search.Engine

open Run
open Dataset (Source)

variable {config : Config} {dataset : Except Run.Error (List Record)} {t : List Entry}
  {e e' : Engine}

/-- Nothing in the engine stands in the way of a load of `records`. -/
structure Permits (e : Engine) (config : Config) (records : List Record) : Prop where
  /-- It is ready for one of the pings. -/
  ready : ∃ i, 1 ≤ i ∧ i ≤ config.readiness.maxAttempts ∧ e.readyAfter i = true
  creates : e.failCreate = false
  /-- It fails none of the bulk requests, which are counted on from those before the load. -/
  writes : ∀ j, 1 ≤ j → j ≤ batchCount config.ingest.batchSize records.length →
    e.failBulkOnCall ≠ some (e.bulkCalls.length + j)

/-- What an error says about the index that a failed load leaves behind. -/
def LeftBehind (config : Config) (dataset : Except Run.Error (List Record))
    (before after : Engine) : Run.Error → Prop
  | .connectivity _ _ => after.index? config.index.name = before.index? config.index.name
  | .config _ =>
    config.readiness.maxAttempts = 0 ∧
        after.index? config.index.name = before.index? config.index.name ∨
      1 ≤ config.readiness.maxAttempts ∧ config.ingest.batchSize = 0 ∧
        after.index? config.index.name = some ⟨config.index.body, []⟩
  | .indexRecreate _ _ =>
    before.index? config.index.name ≠ none ∧ after.index? config.index.name = none
  | .fetch detail =>
    dataset = .error (.fetch detail) ∧ after.index? config.index.name = some ⟨config.index.body, []⟩
  | .service cause =>
    cause.kind = .indexCreation ∧ before.index? config.index.name = none ∧
        after.index? config.index.name = none ∨
      -- The request that failed is the load's request number `j`.
      cause.kind = .bulkIndex ∧ ∃ records j, dataset = .ok records ∧ 1 ≤ j ∧
        j ≤ batchCount config.ingest.batchSize records.length ∧
        before.failBulkOnCall = some (before.bulkCalls.length + j) ∧
        after.bulkCalls =
          before.bulkCalls ++ (batches config.ingest.batchSize records).take j ∧
        after.index? config.index.name = some ⟨config.index.body,
          ((batches config.ingest.batchSize records).take (j - 1)).flatMap before.acceptedOf⟩

/-- Every document of some batches is accepted or rejected. -/
theorem length_accepted_add_rejected (e : Engine) (pending : List (List Record)) :
    (pending.flatMap e.acceptedOf).length + (pending.map e.rejectedOf).sum =
      (pending.map List.length).sum := by
  induction pending with
  | nil => rfl
  | cons batch rest ih =>
    -- No more documents are rejected than there are.
    have hbatch : (e.acceptedOf batch).length + e.rejectedOf batch = batch.length := by
      unfold acceptedOf
      rw [List.length_take, Nat.min_eq_left (Nat.sub_le ..)]
      exact Nat.sub_add_cancel (Nat.min_le_right ..)
    rw [List.flatMap_cons, List.length_append, List.map_cons, List.map_cons, List.sum_cons,
      List.sum_cons, ← hbatch, ← ih]
    omega

/-- Up to the fetch: the service was found ready, and its index is new. -/
theorem takes_cleared {pings calls rest : List Entry} {attempts : Nat}
    (hprobe : ProbeTrace config.readiness pings (.ok attempts))
    (hreset : ResetTrace config.index calls (.ok ()))
    (ht : Takes dataset e (pings ++ (calls ++ rest)) e') :
    e.FoundReady config.readiness.maxAttempts attempts ∧ e.failCreate = false ∧
      ∃ between, SameSettings e between ∧ between.bulkCalls = e.bulkCalls ∧
        between.index? config.index.name = some ⟨config.index.body, []⟩ ∧
        Takes dataset between rest e' := by
  obtain ⟨ready, hpings, ht⟩ := takes_append.mp ht
  obtain ⟨between, hcalls, ht⟩ := takes_append.mp ht
  obtain ⟨hready, -, hbulk⟩ := takes_probe_ok hprobe hpings
  have hsame := sameSettings_of_takes hpings
  obtain ⟨hcreates, hindex, hbulk'⟩ := takes_reset_ok hreset hcalls
  exact ⟨hready, hsame.failCreate.symm.trans hcreates, between,
    hsame.trans (sameSettings_of_takes hcalls), hbulk'.trans hbulk, hindex, ht⟩

theorem records_of_load_ok {report : Report} (h : LoadTrace config t (.ok report))
    (ht : Takes dataset e t e') :
    1 ≤ config.readiness.maxAttempts ∧ 1 ≤ config.ingest.batchSize ∧
      ∃ records, dataset = .ok records := by
  cases h with
  | @done pings calls bulks attempts records sent hprobe hreset hinsert counted =>
    obtain ⟨_, -, ht⟩ := takes_append.mp ht
    obtain ⟨_, -, ht⟩ := takes_append.mp ht
    have hsize := hinsert.of_ok.1
    exact ⟨hprobe.maxAttempts_pos, Nat.one_le_iff_ne_zero.mpr hsize, records, ht.1.symm⟩

/-- A load that succeeds was permitted; what it leaves and reports. -/
theorem takes_load_ok {records : List Record} {report : Report}
    (h : LoadTrace config t (.ok report)) (ht : Takes (.ok records) e t e') :
    e.Permits config records ∧
      e'.index? config.index.name = some ⟨config.index.body,
        (batches config.ingest.batchSize records).flatMap e.acceptedOf⟩ ∧
      e.FoundReady config.readiness.maxAttempts report.attempts ∧
      report.fetched = records.length ∧ report.submitted = records.length ∧
      report.rejected =
        ((batches config.ingest.batchSize records).map e.rejectedOf).sum % countLimit ∧
      report.indexedCount + ((batches config.ingest.batchSize records).map e.rejectedOf).sum =
        report.fetched := by
  cases h with
  | done hprobe hreset hinsert counted =>
    obtain ⟨hready, hcreates, between, hsame, hbulk, hindex, ht⟩ :=
      takes_cleared hprobe hreset ht
    obtain ⟨hrecords, ht⟩ := takes_fetched.mp ht
    obtain rfl := Except.ok.inj hrecords
    obtain ⟨full, hbulks, ht⟩ := takes_append.mp ht
    obtain ⟨hwrites, hsubmitted, hrejected, hfull⟩ := takes_insert_ok hinsert hbulks hindex
    rw [hbulk, hsame.failBulkOnCall] at hwrites
    rw [hsame.rejectedOf] at hrejected
    rw [hsame.acceptedOf] at hfull
    obtain ⟨hcount, rfl⟩ := takes_called.mp ht
    rw [count_answer hfull] at hcount
    obtain rfl := Except.ok.inj hcount
    refine ⟨⟨⟨_, hready.pos, hready.le, hready.ready⟩, hcreates, hwrites⟩,
      (index?_perform ..).trans hfull, hready, rfl, hsubmitted, hrejected, ?_⟩
    dsimp only
    rw [length_accepted_add_rejected, sum_length_batches hinsert.of_ok.1]

/-- A load that fails was not permitted; what it leaves. -/
theorem takes_load_error {failure : StepFailure} (h : LoadTrace config t (.error failure))
    (ht : Takes dataset e t e')
    (hdataset : ∀ err, dataset = .error err → ∃ detail, err = .fetch detail) :
    LeftBehind config dataset e e' failure.error ∧
      ∀ records, dataset = .ok records → 1 ≤ config.readiness.maxAttempts →
        1 ≤ config.ingest.batchSize → ¬e.Permits config records := by
  -- What the engine did before a step that fails is known from the steps that went well.
  cases h with
  | probing hprobe =>
    obtain ⟨hcause, hindex, -⟩ := takes_probe_error hprobe ht
    rcases hcause with ⟨⟨detail, rfl⟩, hmax⟩ | ⟨⟨refusal, rfl⟩, hlate⟩
    · exact ⟨.inl ⟨hmax, congrFun hindex _⟩, fun _ _ hpos => absurd hmax (by omega)⟩
    · refine ⟨congrFun hindex _, fun _ _ _ _ hpermits => ?_⟩
      obtain ⟨i, hpos, hle, hready⟩ := hpermits.ready
      exact Bool.false_ne_true ((hlate i hpos hle).symm.trans hready)
  | initializing hprobe hreset =>
    obtain ⟨between, hpings, ht⟩ := takes_append.mp ht
    obtain ⟨-, hindex, -⟩ := takes_probe_ok hprobe hpings
    have hsame := sameSettings_of_takes hpings
    obtain ⟨hfail, hgone, hcause⟩ := takes_reset_error hreset ht
    rw [hsame.failCreate] at hfail
    rw [hindex] at hcause
    refine ⟨?_, fun _ _ _ _ hpermits => absurd (hpermits.creates.symm.trans hfail) (by decide)⟩
    rcases hcause with ⟨⟨cause, rfl⟩, hthere⟩ | ⟨⟨cause, rfl, hkind⟩, hfree⟩
    · exact ⟨hthere, hgone⟩
    · exact .inl ⟨hkind, hfree, hgone⟩
  | fetching hprobe hreset err =>
    obtain ⟨-, -, between, -, -, hindex, ht⟩ := takes_cleared hprobe hreset ht
    obtain ⟨rfl, rfl⟩ := takes_fetched.mp ht
    obtain ⟨detail, rfl⟩ := hdataset err rfl
    exact ⟨⟨rfl, hindex⟩, fun _ heq => by cases heq⟩
  | ingesting hprobe hreset hinsert =>
    obtain ⟨-, -, between, hsame, hbulk, hindex, ht⟩ :=
      takes_cleared hprobe hreset ht
    obtain ⟨rfl, ht⟩ := takes_fetched.mp ht
    rcases takes_insert_error hinsert ht hindex with ⟨⟨detail, rfl⟩, hsize, hempty⟩ |
      ⟨cause, j, rfl, hkind, hpos, hle, hfail, hcalls, hafter⟩
    · have hmax := hprobe.maxAttempts_pos
      exact ⟨.inr ⟨hmax, hsize, hempty⟩, fun _ _ _ hpos => absurd hsize (by omega)⟩
    · rw [hbulk, hsame.failBulkOnCall] at hfail
      rw [hbulk] at hcalls
      rw [hsame.acceptedOf] at hafter
      refine ⟨.inr ⟨hkind, _, j, rfl, hpos, hle, hfail, hcalls, hafter⟩, ?_⟩
      intro _ heq _ _ hpermits
      obtain rfl := Except.ok.inj heq
      exact hpermits.writes j hpos hle hfail
  | verifying hprobe hreset hinsert cause =>
    obtain ⟨-, -, between, -, -, hindex, ht⟩ := takes_cleared hprobe hreset ht
    obtain ⟨-, ht⟩ := takes_fetched.mp ht
    obtain ⟨full, hbulks, ht⟩ := takes_append.mp ht
    obtain ⟨-, -, -, hfull⟩ := takes_insert_ok hinsert hbulks hindex
    -- The index is there, so it can be counted.
    obtain ⟨hcount, -⟩ := takes_called.mp ht
    rw [count_answer hfull] at hcount
    cases hcount

/-! ## Runs -/

section Numbers

variable {max attempts : Nat}

/-- Below the limit of the count, one of the pings finds the engine ready exactly if its number is
reached. -/
theorem exists_readyAfter_iff (hmax : 1 ≤ max) (hbound : e.pings.toNat + max < 2 ^ 32) :
    (∃ i, 1 ≤ i ∧ i ≤ max ∧ e.readyAfter i = true) ↔
      ∃ first, e.readyOnPing = some first ∧ first.toNat ≤ e.pings.toNat + max := by
  constructor
  · rintro ⟨i, -, hle, hready⟩
    obtain ⟨first, hfirst, hreached⟩ := (readyAfter_iff (by omega)).mp hready
    exact ⟨first, hfirst, by omega⟩
  · exact fun h => ⟨max, hmax, Nat.le_refl max, (readyAfter_iff hbound).mpr h⟩

/-- Below the limit of the count, it is the first ping, or the one with the number that the engine
gets ready on. -/
theorem FoundReady.attempts_eq (h : e.FoundReady max attempts)
    (hbound : e.pings.toNat + max < 2 ^ 32) :
    ∃ first, e.readyOnPing = some first ∧ attempts = Max.max 1 (first.toNat - e.pings.toNat) := by
  obtain ⟨hpos, hle, hready, hearly⟩ := h
  obtain ⟨first, hfirst, hreached⟩ := (readyAfter_iff (by omega)).mp hready
  refine ⟨first, hfirst, ?_⟩
  -- The first ping may come long after the engine got ready.
  by_cases hone : attempts = 1
  · omega
  · -- Otherwise there is a ping before, and it came too early.
    have hfalse := hearly (attempts - 1) (by omega) (by omega)
    have hlate : ¬first.toNat ≤ e.pings.toNat + (attempts - 1) := fun hreached =>
      Bool.false_ne_true (hfalse.symm.trans
        ((readyAfter_iff (by omega)).mpr ⟨first, hfirst, hreached⟩))
    omega

end Numbers

/-- A load succeeds exactly if the engine permits it.  Then the index holds what the engine accepts
of each batch, the other indices are as before, and the report counts the records of each batch as
accepted or rejected.  The numbers of its pings are below the limit of their count; the count of the
rejected is exact for every list that a memory can hold. -/
theorem load_succeeds_iff_permits (config : Config) (records : List Record) (name : String)
    (start : State) (e : Engine) (hmax : 1 ≤ config.readiness.maxAttempts)
    (hsize : 1 ≤ config.ingest.batchSize)
    (hpings : e.pings.toNat + config.readiness.maxAttempts < 2 ^ 32) :
    let run := (load config name start).run Engine.service (.constant (.ok records)) e
    let sent := batches config.ingest.batchSize records
    let rejected := (sent.map fun batch => min e.rejectPerBatch batch.length).sum
    ((∃ report, run.result = .ok report) ↔
        (∃ first, e.readyOnPing = some first ∧
          first.toNat ≤ e.pings.toNat + config.readiness.maxAttempts) ∧
        e.failCreate = false ∧
        ∀ j, 1 ≤ j → j ≤ batchCount config.ingest.batchSize records.length →
          e.failBulkOnCall ≠ some (e.bulkCalls.length + j)) ∧
      ∀ report, run.result = .ok report →
        run.state.index? config.index.name = some ⟨config.index.body,
          sent.flatMap fun batch =>
            batch.take (batch.length - min e.rejectPerBatch batch.length)⟩ ∧
        (∀ n, n ≠ config.index.name → run.state.index? n = e.index? n) ∧
        (∃ first, e.readyOnPing = some first ∧
          report.attempts = max 1 (first.toNat - e.pings.toNat)) ∧
        report.fetched = records.length ∧ report.submitted = records.length ∧
        report.indexedCount + rejected = report.fetched ∧
        report.rejected = rejected % countLimit ∧
        (records.length < countLimit →
          report.rejected = rejected ∧ report.indexedCount + report.rejected = report.fetched) := by
  intro run sent rejected
  -- A load ends one way or the other, and each way decides whether it was permitted.
  obtain ⟨⟨outcome, htrace, hresult⟩, htakes⟩ :=
    exists_loadTrace Engine.service (.constant (.ok records)) config name start e
  change run.result = _ at hresult
  have hnumbers := exists_readyAfter_iff hmax hpings
  cases outcome with
  | ok report =>
    obtain ⟨hpermits, hindex, hready, hfetched, hsubmitted, hrejected, hcount⟩ :=
      takes_load_ok htrace htakes
    refine ⟨iff_of_true ⟨report, hresult⟩
      ⟨hnumbers.mp hpermits.ready, hpermits.creates, hpermits.writes⟩, ?_⟩
    intro report' hreport'
    obtain rfl := Except.ok.inj (hresult.symm.trans hreport')
    refine ⟨hindex, fun n hn => index?_of_takes htakes (htrace.ne_index hn),
      hready.attempts_eq hpings, hfetched, hsubmitted, hcount, hrejected, fun hlength => ?_⟩
    -- No more records are rejected than there are.
    change report.indexedCount + rejected = report.fetched at hcount
    change report.rejected = rejected % countLimit at hrejected
    have hword : rejected < countLimit := by omega
    rw [Nat.mod_eq_of_lt hword] at hrejected
    exact ⟨hrejected, hrejected ▸ hcount⟩
  | error failure =>
    obtain ⟨-, hrefused⟩ := takes_load_error htrace htakes fun _ h => by cases h
    have herror : ∀ report, run.result ≠ .ok report := fun report hok => by
      cases hresult.symm.trans hok
    refine ⟨iff_of_false (fun ⟨report, hok⟩ => herror report hok) ?_,
      fun report hok => absurd hok (herror report)⟩
    rintro ⟨hready, hcreates, hwrites⟩
    exact hrefused records rfl hmax hsize ⟨hnumbers.mpr hready, hcreates, hwrites⟩

theorem late_load_succeeds :
    let run := (load smallConfig "memory" .idle).run Engine.service
      (.constant (.ok threeRecords)) lateEngine
    1 ≤ smallConfig.readiness.maxAttempts ∧ 1 ≤ smallConfig.ingest.batchSize ∧
      lateEngine.pings.toNat + smallConfig.readiness.maxAttempts < 2 ^ 32 ∧
      (∃ report, run.result = .ok report) ∧
      run.result = .ok ⟨2, 3, 3, 2, 1⟩ :=
  have h := load_succeeds_iff_permits smallConfig threeRecords "memory" .idle lateEngine (by decide)
    (by decide) (by decide)
  ⟨by decide, by decide, by decide, h.1.mpr ⟨⟨2, rfl, by decide⟩, rfl, fun _ _ _ =>
    (Option.some_ne_none _).symm⟩, by decide +kernel⟩

/-- What each error says about the index after a load that failed.  The other indices are as they
were before it. -/
theorem left_behind_of_failed_load (config : Config) (dataset : Except String (List Record))
    (name : String) (start : State) (e : Engine) (err : Run.Error) :
    let source := Source.constant (dataset.mapError .fetch)
    let run := (load config name start).run Engine.service source e
    run.result = .error err →
      LeftBehind config (dataset.mapError .fetch) e run.state err ∧
        ∀ n, n ≠ config.index.name → run.state.index? n = e.index? n := by
  intro source run herror
  obtain ⟨⟨outcome, htrace, hresult⟩, htakes⟩ :=
    exists_loadTrace Engine.service source config name start e
  change run.result = _ at hresult
  cases outcome with
  | ok report => cases hresult.symm.trans herror
  | error failure =>
    obtain rfl : failure.error = err := Except.error.inj (hresult.symm.trans herror)
    have hdataset : ∀ err : Run.Error, dataset.mapError .fetch = .error err →
        ∃ detail, err = .fetch detail := fun _ h => (mapError_eq_error h).imp fun _ h => h.2
    exact ⟨(takes_load_error htrace htakes hdataset).1,
      fun n hn => index?_of_takes htakes (htrace.ne_index hn)⟩

/-- An engine like `lateEngine` that fails its second bulk request. -/
def failingEngine : Engine := { lateEngine with failBulkOnCall := some 2 }

theorem left_behind_by_second_request :
    let run := (load smallConfig "memory" .idle).run Engine.service
      (.constant (.ok threeRecords)) failingEngine
    let err : Run.Error := .service ⟨.bulkIndex, "connection reset by peer"⟩
    run.result = .error err ∧
      LeftBehind smallConfig (.ok threeRecords) failingEngine run.state err ∧
      (run.state.index? "movies").map (·.documents.length) = some 1 := by
  intro run err
  have hresult : run.result = .error err := by decide +kernel
  have hleft := left_behind_of_failed_load smallConfig (.ok threeRecords) "memory" .idle
    failingEngine err hresult
  exact ⟨hresult, hleft.1, by decide +kernel⟩

end Reindex.Search.Engine
