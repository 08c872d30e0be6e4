import Reindex.Proofs.Alike
import Reindex.Proofs.Engine.Load
import Reindex.Proofs.Finish

/-!
# What a load does not depend on

What the index of a load held before leaves no trace: once the index is new, two engines that
differed in it alone answer every call in the same way.
-/

namespace Reindex.Search.Engine

open Run
open Run.Procedure
open Dataset (Source)

/-- Engines that answer all calls about the names of `keep` in the same way. -/
structure SameOn (keep : String → Prop) (e e' : Engine) : Prop where
  settings : SameSettings e e'
  pings : e'.pings = e.pings
  bulkCalls : e'.bulkCalls = e.bulkCalls
  index : ∀ n, keep n → e'.index? n = e.index? n

variable {keep : String → Prop} {e e' : Engine} {c : Call}

theorem SameOn.answer (h : SameOn keep e e') (hc : ∀ n, c.index? = some n → keep n) :
    (e.perform c).1 = (e'.perform c).1 := by
  have hindex : ∀ n, c.index? = some n → e'.index? n = e.index? n :=
    fun n hn => h.index n (hc n hn)
  cases c with
  | ping =>
    unfold perform respond
    dsimp only
    rw [h.settings.readyFor, h.pings]
  | «exists» n => exact congrArg (fun i => Except.ok i.isSome) (hindex n rfl).symm
  | delete n => rfl
  | create n body => rw [create_eq, create_eq, h.settings.failCreate, hindex n rfl]
  | bulk n records =>
    rw [bulk_eq, bulk_eq, h.settings.failBulkOnCall, h.bulkCalls, h.settings.summaryOf]
  | count n => rw [count_eq, count_eq, hindex n rfl]

theorem SameOn.perform (h : SameOn keep e e') (hc : ∀ n, c.index? = some n → keep n) :
    SameOn keep (e.perform c).2 (e'.perform c).2 where
  settings :=
    (sameSettings_perform c e).symm.trans (h.settings.trans (sameSettings_perform c e'))
  pings := by
    rw [pings_perform, pings_perform, h.pings]
  bulkCalls := by
    rw [bulkCalls_perform, bulkCalls_perform, h.bulkCalls]
  index n hn := by
    have hindex := h.index n hn
    rw [index?_perform, index?_perform]
    cases c with
    | ping | «exists» | count => exact hindex
    | delete m =>
      dsimp only
      rw [hindex]
    | create m body =>
      dsimp only
      rw [hindex, h.settings.failCreate, h.index m (hc m rfl)]
    | bulk m records =>
      dsimp only
      rw [indexOrNew_eq, indexOrNew_eq, hindex, h.index m (hc m rfl), h.settings.failBulkOnCall,
        h.bulkCalls, h.settings.acceptedOf]

/-- The calls of a run are about names of `keep`. -/
def Keeps (keep : String → Prop) (entry : Entry) : Prop :=
  ∀ c, entry.call? = some c → ∀ n, c.index? = some n → keep n

theorem simulates_sameOn (dataset : Except Run.Error (List Record)) :
    Simulates (fun _ => Eq) (Keeps keep) (SameOn keep) Engine.service (.constant dataset)
      Engine.service (.constant dataset) where
  call c _ _ h hkeeps :=
    ⟨h.answer (hkeeps c rfl), h.perform (hkeeps c rfl), rfl⟩
  fetch _ _ h := ⟨rfl, h, rfl⟩

/-- Runs on engines that answer alike end alike. -/
theorem SameOn.run {ε α : Type} (h : SameOn keep e e') {dataset : Except Run.Error (List Record)}
    (p : Procedure ε α)
    (hkeeps : ∀ entry ∈ (p.run Engine.service (.constant dataset) e).journal, Keeps keep entry) :
    (p.finish Engine.service (.constant dataset) e).1 =
        (p.finish Engine.service (.constant dataset) e').1 ∧
      SameOn keep (p.finish Engine.service (.constant dataset) e).2
        (p.finish Engine.service (.constant dataset) e').2 := by
  obtain ⟨hresult, hstate, -⟩ := (Alike.refl p).run (simulates_sameOn dataset) h hkeeps
  exact ⟨hresult, hstate⟩

/-! ## The steps before the index is new -/

/-- The error of a load that is refused the new index. -/
def refusal (name : String) (e : Engine) : Run.Error :=
  if (e.index? name).isSome then .indexRecreate name ⟨.indexCreation, "status 500"⟩
  else .service ⟨.indexCreation, "status 500"⟩

/-- The answer to the creation of an index that is not there. -/
theorem create_answer {n : String} (body : Json) (h : e.index? n = none) :
    (e.perform (.create n body)).1 =
      if e.failCreate then .error ⟨.indexCreation, "status 500"⟩ else .ok () := by
  rw [create_eq, h]
  rfl

/-- An engine with a new index in place of the old one, or with none if it refuses new indices. -/
structure Renewed (index : IndexConfig) (e after : Engine) : Prop where
  settings : SameSettings e after
  pings : after.pings = e.pings
  bulkCalls : after.bulkCalls = e.bulkCalls
  target : after.index? index.name = if e.failCreate then none else some ⟨index.body, []⟩
  others : ∀ n, n ≠ index.name → after.index? n = e.index? n

theorem renewed_create {index : IndexConfig} (h : e.index? index.name = none) :
    Renewed index e (e.perform (.create index.name index.body)).2 where
  settings := sameSettings_perform _ e
  pings := pings_perform _ e
  bulkCalls := bulkCalls_perform _ e
  target := by
    rw [index?_perform]
    dsimp only
    by_cases hfail : e.failCreate = true
    · rw [if_neg (by simp [hfail]), if_pos hfail, h]
    · rw [if_pos ⟨rfl, by simpa using hfail, h⟩, if_neg hfail]
  others n hn := by
    have hname : (Call.create index.name index.body).index? ≠ some n :=
      fun heq => hn (Option.some.inj heq).symm
    exact index?_perform_of_ne hname e

theorem Renewed.of_sameOn {index : IndexConfig} {after : Engine}
    (h : SameOn (· ≠ index.name) e e') (h' : Renewed index e' after) : Renewed index e after where
  settings := h.settings.trans h'.settings
  pings := h'.pings.trans h.pings
  bulkCalls := h'.bulkCalls.trans h.bulkCalls
  target := by
    rw [h'.target, h.settings.failCreate]
  others n hn := (h'.others n hn).trans (h.index n hn)

/-- Two engines that differ in the old index alone do not differ once it is new. -/
theorem Renewed.sameOn {index : IndexConfig} {after after' : Engine}
    (h : SameOn (· ≠ index.name) e e') (hafter : Renewed index e after)
    (hafter' : Renewed index e' after') : SameOn (fun _ => True) after after' where
  settings := hafter.settings.symm.trans (h.settings.trans hafter'.settings)
  pings := by
    rw [hafter.pings, hafter'.pings, h.pings]
  bulkCalls := by
    rw [hafter.bulkCalls, hafter'.bulkCalls, h.bulkCalls]
  index n _ := by
    by_cases hn : n = index.name
    · rw [hn, hafter.target, hafter'.target, h.settings.failCreate]
    · rw [hafter.others n hn, hafter'.others n hn, h.index n hn]

/-- A reset takes the old index away, and a new one takes its place if the engine allows it. -/
theorem finish_reset (dataset : Except Run.Error (List Record)) (index : IndexConfig) (e : Engine) :
    ∃ after, (reset index).finish Engine.service (.constant dataset) e =
        (if e.failCreate then .error (refusal index.name e) else .ok (), after) ∧
      Renewed index e after := by
  have hexists : ((Procedure.perform (.exists index.name)).mapError Error.service).finish
      Engine.service (.constant dataset) e =
        (.ok (e.index? index.name).isSome, (e.perform (.exists index.name)).2) := rfl
  unfold reset
  rw [finish_note_bind, finish_bind_ok hexists]
  unfold refusal
  cases hthere : (e.index? index.name).isSome with
  | false =>
    have hfree : (e.perform (.exists index.name)).2.index? index.name = none := by
      rw [← Option.not_isSome_iff_eq_none, Bool.not_eq_true]
      exact hthere
    have hanswer : (Engine.service.perform (.create index.name index.body)
        (e.perform (.exists index.name)).2).answer =
          if e.failCreate then .error ⟨.indexCreation, "status 500"⟩ else .ok () :=
      create_answer index.body hfree
    have hsame : SameOn (· ≠ index.name) e (e.perform (.exists index.name)).2 :=
      ⟨sameSettings_perform _ e, rfl, rfl, fun _ _ => rfl⟩
    refine ⟨_, ?_, (renewed_create hfree).of_sameOn hsame⟩
    simp only [Bool.false_eq_true, if_false]
    rw [finish_request_bind, hanswer]
    cases e.failCreate <;> rfl
  | true =>
    have hdelete : ((Procedure.perform (.delete index.name)).mapError Error.service).finish
        Engine.service (.constant dataset) (e.perform (.exists index.name)).2 =
          (.ok (), ((e.perform (.exists index.name)).2.perform (.delete index.name)).2) := rfl
    have hfree : ((e.perform (.exists index.name)).2.perform (.delete index.name)).2.index?
        index.name = none := (index?_perform ..).trans (if_pos rfl)
    have hanswer : (Engine.service.perform (.create index.name index.body)
        ((e.perform (.exists index.name)).2.perform (.delete index.name)).2).answer =
          if e.failCreate then .error ⟨.indexCreation, "status 500"⟩ else .ok () :=
      create_answer index.body hfree
    have hsame : SameOn (· ≠ index.name) e
        ((e.perform (.exists index.name)).2.perform (.delete index.name)).2 := by
      refine ⟨(sameSettings_perform _ e).trans (sameSettings_perform _ _), rfl, rfl,
        fun n hn => ?_⟩
      have hname : (Call.delete index.name).index? ≠ some n :=
        fun heq => hn (Option.some.inj heq).symm
      exact index?_perform_of_ne hname _
    refine ⟨_, ?_, (renewed_create hfree).of_sameOn hsame⟩
    simp only [if_true]
    rw [finish_note_bind, finish_bind_ok hdelete, finish_request_bind, hanswer]
    cases e.failCreate <;> rfl

/-! ## Waiting for an engine -/

/-- Waiting makes no calls but pings. -/
theorem keeps_awaitService (keep : String → Prop) (r : Readiness)
    (dataset : Except Run.Error (List Record)) (e : Engine) :
    ∀ entry ∈ (r.awaitService.run Engine.service (.constant dataset) e).journal,
      Keeps keep entry := by
  obtain ⟨journal, hadmits, -, hcontacts⟩ :=
    exists_admits Engine.service (.constant dataset) r.awaitService e
  obtain ⟨answers, hpinged⟩ := (Readiness.awaitService_trace hadmits).eq_pinged
  intro entry hentry c hcall n hn
  -- An entry about a call is a contact, and all contacts are pings.
  cases entry with
  | fetched | paused | logged => cases hcall
  | called c' answer =>
    have hcontact := called_mem_contacts hentry
    change _ ∈ Outcome.contacts _ at hcontact
    rw [hcontacts, hpinged] at hcontact
    obtain ⟨_, -, hping⟩ := List.mem_map.mp hcontact
    cases hping
    cases hcall
    cases hn

/-- Waiting changes nothing but the counter of the pings. -/
theorem finish_awaitService (r : Readiness) (dataset : Except Run.Error (List Record))
    (e : Engine) :
    SameSettings e (r.awaitService.finish Engine.service (.constant dataset) e).2 ∧
      (r.awaitService.finish Engine.service (.constant dataset) e).2.index? = e.index? := by
  obtain ⟨journal, hadmits, hreplays, -⟩ :=
    exists_admits Engine.service (.constant dataset) r.awaitService e
  have htrace := Readiness.awaitService_trace hadmits
  refine ⟨sameSettings_of_takes hreplays, ?_⟩
  obtain ⟨answers, hpinged⟩ := htrace.eq_pinged
  have hpings := hreplays.contacts
  rw [hpinged] at hpings
  exact (takes_pinged hpings).2.1

/-- An engine that gets ready in time is found ready. -/
theorem exists_attempts {r : Readiness} (dataset : Except Run.Error (List Record)) {e : Engine}
    (h : ∃ k, 1 ≤ k ∧ k ≤ r.maxAttempts ∧ e.readyAfter k = true) :
    ∃ attempts, (r.awaitService.finish Engine.service (.constant dataset) e).1 = .ok attempts := by
  obtain ⟨k, hpos, hle, hready⟩ := h
  obtain ⟨journal, hadmits, hreplays, -⟩ :=
    exists_admits Engine.service (.constant dataset) r.awaitService e
  cases hresult : (r.awaitService.run Engine.service (.constant dataset) e).result with
  | ok attempts => exact ⟨attempts, hresult⟩
  | error err =>
    rw [hresult] at hadmits
    obtain ⟨hcause, -⟩ :=
      takes_probe_error (Readiness.awaitService_trace hadmits) hreplays.contacts
    rcases hcause with ⟨-, hzero⟩ | ⟨-, hlate⟩
    · omega
    · exact absurd ((hlate k hpos hle).symm.trans hready) Bool.false_ne_true

/-! ## Whole loads -/

/-- The steps of a load on an engine that was found ready: the index is new in `after`, and the
rest of the load starts there, or the engine refused. -/
theorem finish_steps_on (config : Config) (dataset : Except Run.Error (List Record)) (start : State)
    {e : Engine} {attempts : Nat}
    (hprobe : (config.readiness.awaitService.finish Engine.service (.constant dataset) e).1 =
      .ok attempts) :
    ∃ after,
      Renewed config.index
        (config.readiness.awaitService.finish Engine.service (.constant dataset) e).2 after ∧
      (steps config start).finish Engine.service (.constant dataset) e =
        if e.failCreate then (.error ⟨.initializing, refusal config.index.name e⟩, after)
        else (afterReset config attempts).finish Engine.service (.constant dataset) after := by
  obtain ⟨hsettings, hindex⟩ := finish_awaitService config.readiness dataset e
  have hready : config.readiness.awaitService.finish Engine.service (.constant dataset) e =
      (.ok attempts,
        (config.readiness.awaitService.finish Engine.service (.constant dataset) e).2) :=
    Prod.ext hprobe rfl
  obtain ⟨after, hreset, hrenewed⟩ := finish_reset dataset config.index
    (config.readiness.awaitService.finish Engine.service (.constant dataset) e).2
  refine ⟨after, hrenewed, ?_⟩
  unfold refusal at hreset ⊢
  rw [hsettings.failCreate, hindex] at hreset
  by_cases hfail : e.failCreate = true
  · rw [if_pos hfail] at hreset ⊢
    exact finish_steps_of_error hready hreset
  · rw [if_neg hfail] at hreset ⊢
    exact finish_steps_of_ok hready hreset

/-- A load that fails on an engine which is not ready in time leaves its indices alone. -/
theorem index?_of_unready {config : Config} {dataset : Except Run.Error (List Record)}
    {t : List Entry} {failure : StepFailure} (h : LoadTrace config t (.error failure))
    (ht : Takes dataset e t e')
    (hlate : ¬∃ k, 1 ≤ k ∧ k ≤ config.readiness.maxAttempts ∧ e.readyAfter k = true) :
    e'.index? = e.index? := by
  cases h with
  | probing hprobe => exact (takes_probe_error hprobe ht).2.1
  -- In any later step the engine was found ready before.
  | initializing hprobe | fetching hprobe | ingesting hprobe | verifying hprobe =>
    obtain ⟨_, hpings, -⟩ := takes_append.mp ht
    have hready := (takes_probe_ok hprobe hpings).1
    exact absurd ⟨_, hready.pos, hready.le, hready.ready⟩ hlate

/-- An engine that fails no bulk request keeps its indices when a load that succeeded is made again:
either the load succeeds again, or the engine is not ready in time. -/
theorem load_again {config : Config} {dataset : Except Run.Error (List Record)} {name : String}
    {start : State} {report : Report} (hbulk : e.failBulkOnCall = none)
    (hok : ((load config name start).run Engine.service (.constant dataset) e).result =
      .ok report) :
    let first := (load config name start).run Engine.service (.constant dataset) e
    let second := (load config name start).run Engine.service (.constant dataset) first.state
    ((∃ report', second.result = .ok report') ↔
        ∃ k, 1 ≤ k ∧ k ≤ config.readiness.maxAttempts ∧ first.state.readyAfter k = true) ∧
      ∀ n, second.state.index? n = first.state.index? n := by
  intro first second
  obtain ⟨⟨outcome, htrace, hresult⟩, htakes⟩ :=
    exists_loadTrace Engine.service (.constant dataset) config name start e
  obtain ⟨⟨outcome', htrace', hresult'⟩, htakes'⟩ :=
    exists_loadTrace Engine.service (.constant dataset) config name start first.state
  change second.result = _ at hresult'
  cases outcome with
  | error failure => cases hok.symm.trans hresult
  | ok report =>
    obtain ⟨hmax, hsize, records, rfl⟩ := records_of_load_ok htrace htakes
    obtain ⟨hpermits, hindex, -⟩ := takes_load_ok htrace htakes
    have hsame : SameSettings e first.state := sameSettings_of_takes htakes
    have hfree : first.state.failBulkOnCall = none := hsame.failBulkOnCall.trans hbulk
    cases outcome' with
    | ok report' =>
      obtain ⟨hpermits', hindex', -⟩ := takes_load_ok htrace' htakes'
      refine ⟨iff_of_true ⟨report', hresult'⟩ hpermits'.ready, fun n => ?_⟩
      by_cases hn : n = config.index.name
      · rw [hsame.acceptedOf] at hindex'
        rw [hn]
        exact hindex'.trans hindex.symm
      · exact index?_of_takes htakes' (htrace'.ne_index hn)
    | error failure =>
      obtain ⟨-, hrefused⟩ := takes_load_error htrace' htakes' fun _ h => by cases h
      -- Of all that can stand in the way of a load, only the pings are left.
      have hlate : ¬∃ k, 1 ≤ k ∧ k ≤ config.readiness.maxAttempts ∧
          first.state.readyAfter k = true := fun hready =>
        hrefused records rfl hmax hsize ⟨hready, hsame.failCreate.trans hpermits.creates,
          fun _ _ _ hfail => by cases hfree.symm.trans hfail⟩
      refine ⟨iff_of_false (fun ⟨_, hok⟩ => by cases hresult'.symm.trans hok) hlate, fun n => ?_⟩
      exact congrFun (index?_of_unready htrace' htakes' hlate) n

/-- Nothing of what the index held before is left in what a load gives and leaves, except that a
load which is refused the new index tells whether there was an old one.  So a load that is made
again leaves the indices as they are, and succeeds again exactly if the engine is ready in time. -/
theorem load_forgets_index (config : Config) (dataset : Except Run.Error (List Record))
    (name : String) (start : State) (e e' : Engine)
    (hsame : SameOn (· ≠ config.index.name) e e')
    (hready : ∃ k, 1 ≤ k ∧ k ≤ config.readiness.maxAttempts ∧ e.readyAfter k = true) :
    let run := (load config name start).run Engine.service (.constant dataset) e
    let run' := (load config name start).run Engine.service (.constant dataset) e'
    let again := (load config name start).run Engine.service (.constant dataset) run.state
    SameOn (fun _ => True) run.state run'.state ∧
      (if e.failCreate then
        run.result = .error (refusal config.index.name e) ∧
          run'.result = .error (refusal config.index.name e')
      else run.result = run'.result) ∧
      (e.failBulkOnCall = none → ∀ report, run.result = .ok report →
        ((∃ report', again.result = .ok report') ↔
            ∃ k, 1 ≤ k ∧ k ≤ config.readiness.maxAttempts ∧ run.state.readyAfter k = true) ∧
          ∀ n, again.state.index? n = run.state.index? n) := by
  intro run run' again
  have hload : ∀ e, (load config name start).finish Engine.service (.constant dataset) e = _ :=
    finish_load config name start
  have hrun : (run.result, run.state) = _ := hload e
  have hrun' : (run'.result, run'.state) = _ := hload e'
  obtain ⟨attempts, hprobe⟩ := exists_attempts dataset hready
  obtain ⟨hresult, hprobed⟩ :=
    hsame.run config.readiness.awaitService (keeps_awaitService _ config.readiness dataset e)
  have hprobe' := hresult.symm.trans hprobe
  obtain ⟨after, hrenewed, hsteps⟩ := finish_steps_on config dataset start hprobe
  obtain ⟨after', hrenewed', hsteps'⟩ := finish_steps_on config dataset start hprobe'
  have hafter := hrenewed.sameOn hprobed hrenewed'
  rw [hsteps] at hrun
  rw [hsteps', hsame.settings.failCreate] at hrun'
  refine and_assoc.mp ⟨?_, fun hbulk report hok => load_again hbulk hok⟩
  by_cases hfail : e.failCreate = true
  · rw [if_pos hfail] at hrun hrun' ⊢
    obtain ⟨hresult, hstate⟩ := Prod.mk.inj hrun
    obtain ⟨hresult', hstate'⟩ := Prod.mk.inj hrun'
    rw [hstate, hstate']
    exact ⟨hafter, hresult, hresult'⟩
  · rw [if_neg hfail] at hrun hrun' ⊢
    obtain ⟨hresult, hstate⟩ := Prod.mk.inj hrun
    obtain ⟨hresult', hstate'⟩ := Prod.mk.inj hrun'
    obtain ⟨hend, hstates⟩ := hafter.run (afterReset config attempts) (fun _ _ _ _ _ _ => trivial)
    rw [hstate, hstate', hresult, hresult', hend]
    exact ⟨hstates, rfl⟩

/-- An engine like `lateEngine` without the index. -/
def emptyEngine : Engine := { lateEngine with indices := [] }

theorem late_load_forgets_index :
    let run := (load smallConfig "memory" .idle).run Engine.service
      (.constant (.ok threeRecords)) lateEngine
    let run' := (load smallConfig "memory" .idle).run Engine.service
      (.constant (.ok threeRecords)) emptyEngine
    lateEngine.index? "movies" ≠ none ∧ emptyEngine.index? "movies" = none ∧
      run.calls.map Call.kind ≠ run'.calls.map Call.kind ∧
      SameOn (fun _ => True) run.state run'.state ∧ run.result = run'.result := by
  intro run run'
  have hsame : SameOn (· ≠ smallConfig.index.name) lateEngine emptyEngine := by
    refine ⟨⟨rfl, rfl, rfl, rfl⟩, rfl, rfl, fun n hn => ?_⟩
    change none = Keyed.get? n lateEngine.indices
    unfold lateEngine
    rw [Keyed.get?_cons, if_neg (show n ≠ "movies" from hn), Keyed.get?_nil]
  obtain ⟨hstate, hresult, -⟩ := load_forgets_index smallConfig (.ok threeRecords) "memory" .idle
    lateEngine emptyEngine hsame ⟨2, by decide, by decide, by decide⟩
  exact ⟨by decide +kernel, by decide +kernel, by decide +kernel, hstate, hresult⟩

end Reindex.Search.Engine
