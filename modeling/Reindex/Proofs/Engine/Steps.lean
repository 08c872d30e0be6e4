import Reindex.Proofs.Engine.Calls
import Reindex.Proofs.Trace.Ingest
import Reindex.Proofs.Trace.Readiness
import Reindex.Proofs.Trace.Reset

/-!
# What the steps of a load do to an engine

Each step by itself: from its trace and the engine before it to what was wrong with the engine, or
to the engine after it.
-/

namespace Reindex.Search.Engine

open Run

variable {dataset : Except Run.Error (List Record)} {t : List Entry} {e e' : Engine}

/-! ## Pings -/

/-- Is the engine ready for its ping number `i` from now on, where the next one is number one? -/
def readyAfter (e : Engine) (i : Nat) : Bool := e.readyFor (e.pings + .ofNat i)

/-- The ping number `attempts` from now on is the first that the engine is ready for, and it is one
of the first `max` pings. -/
structure FoundReady (e : Engine) (max attempts : Nat) : Prop where
  pos : 1 ≤ attempts
  le : attempts ≤ max
  ready : e.readyAfter attempts = true
  early : ∀ i, 1 ≤ i → i < attempts → e.readyAfter i = false

theorem readyFor_iff {n : UInt32} :
    e.readyFor n = true ↔ ∃ first, e.readyOnPing = some first ∧ first ≤ n := by
  unfold readyFor
  cases e.readyOnPing with
  | none => simp
  | some first => simp

theorem toNat_pings_add (e : Engine) (i : Nat) :
    (e.pings + .ofNat i).toNat = (e.pings.toNat + i) % 2 ^ 32 := by
  rw [UInt32.toNat_add, UInt32.toNat_ofNat', Nat.add_mod_mod]

/-- As long as the count of the pings does not start again, an engine that is ready stays ready. -/
theorem readyAfter_iff {i : Nat} (h : e.pings.toNat + i < 2 ^ 32) :
    e.readyAfter i = true ↔
      ∃ first, e.readyOnPing = some first ∧ first.toNat ≤ e.pings.toNat + i := by
  unfold readyAfter
  rw [readyFor_iff]
  simp only [UInt32.le_iff_toNat_le, toNat_pings_add, Nat.mod_eq_of_lt h]

theorem readyAfter_perform_ping (i : Nat) :
    (e.perform .ping).2.readyAfter i = e.readyAfter (i + 1) := by
  unfold readyAfter
  change e.readyFor (e.pings + 1 + .ofNat i) = _
  rw [Nat.add_comm i 1, UInt32.ofNat_add, ← UInt32.add_assoc]
  rfl

theorem ping_answer : (e.perform .ping).1 = .ok true ↔ e.readyAfter 1 = true := by
  change (if e.readyFor (e.pings + 1) then .ok true else .error _ : Call.Result .ping) = _ ↔
    e.readyFor (e.pings + 1) = true
  split
  next h => exact iff_of_true rfl h
  next h => exact iff_of_false (by simp) h

/-- Each ping has the next number, and nothing but the counter changes. -/
theorem takes_pinged {answers : List (Call.Result .ping)}
    (h : Takes dataset e (pinged answers) e') :
    (∀ i (hi : i < answers.length), answers[i] = .ok true ↔ e.readyAfter (i + 1) = true) ∧
      e'.index? = e.index? ∧ e'.bulkCalls = e.bulkCalls := by
  induction answers generalizing e with
  | nil =>
    obtain rfl := h
    exact ⟨fun i hi => absurd hi (Nat.not_lt_zero i), rfl, rfl⟩
  | cons answer rest ih =>
    obtain ⟨hanswer, hafter⟩ := takes_called.mp h
    obtain ⟨hrest, hindex, hbulk⟩ := ih hafter
    refine ⟨fun i hi => ?_, hindex, hbulk⟩
    cases i with
    | zero => exact hanswer ▸ ping_answer
    -- Ping number `i` after this one is number `i + 1` from here.
    | succ i => exact (hrest i _).trans (by rw [readyAfter_perform_ping])

/-- The service was found ready: with the first ping that it was ready for. -/
theorem takes_probe_ok {r : Readiness} {attempts : Nat} (h : ProbeTrace r t (.ok attempts))
    (ht : Takes dataset e t e') :
    e.FoundReady r.maxAttempts attempts ∧ e'.index? = e.index? ∧ e'.bulkCalls = e.bulkCalls := by
  cases h with
  | ready refused hrefused hlt =>
    obtain ⟨hanswers, hsame⟩ := takes_pinged ht
    have hready := (hanswers refused.length (by simp)).mp (by simp)
    refine ⟨⟨Nat.le_add_left .., hlt, hready, fun i hpos hi => ?_⟩, hsame⟩
    -- No ping before the last was answered with success.
    obtain ⟨i, rfl⟩ := Nat.exists_eq_succ_of_ne_zero (Nat.pos_iff_ne_zero.mp hpos)
    have hlt : i < refused.length := Nat.lt_of_succ_lt_succ hi
    have hanswer := hanswers i (by simp; omega)
    rw [List.getElem_append_left hlt] at hanswer
    have hne := hrefused refused[i] (List.getElem_mem hlt)
    exact Bool.eq_false_iff.mpr fun hready => hne (hanswer.mpr hready)

/-- The service was not found ready: no ping was allowed, or the engine was ready for none. -/
theorem takes_probe_error {r : Readiness} {err : Run.Error} (h : ProbeTrace r t (.error err))
    (ht : Takes dataset e t e') :
    (((∃ detail, err = .config detail) ∧ r.maxAttempts = 0) ∨
        (∃ refusal, err = .connectivity r.maxAttempts refusal) ∧
          ∀ i, 1 ≤ i → i ≤ r.maxAttempts → e.readyAfter i = false) ∧
      e'.index? = e.index? ∧ e'.bulkCalls = e.bulkCalls := by
  cases h with
  | pointless hmax =>
    obtain rfl := ht
    exact ⟨.inl ⟨⟨_, rfl⟩, hmax⟩, rfl, rfl⟩
  | exhausted refused last refusal hrefused hlast hmax =>
    obtain ⟨hanswers, hsame⟩ := takes_pinged ht
    refine ⟨.inr ⟨⟨refusal, rfl⟩, fun i hpos hle => ?_⟩, hsame⟩
    obtain ⟨i, rfl⟩ := Nat.exists_eq_succ_of_ne_zero (Nat.pos_iff_ne_zero.mp hpos)
    have hlt : i < (refused ++ [last]).length := by simp; omega
    have hne : (refused ++ [last])[i] ≠ .ok true := by
      rcases List.mem_append.mp (List.getElem_mem hlt) with hmem | hmem
      · exact hrefused _ hmem
      · rw [List.mem_singleton.mp hmem]
        exact Readiness.ne_of_refusal? hlast
    exact Bool.eq_false_iff.mpr fun hready => hne ((hanswers i hlt).mpr hready)

/-! ## The reset -/

/-- An index is created only where none is, and otherwise nothing changes. -/
theorem create_spec {n : String} {body : Json} {answer : (Call.create n body).Result}
    (h : answer = (e.perform (.create n body)).1) :
    (answer = .ok () ∧ e.failCreate = false ∧ e.index? n = none ∧
        (e.perform (.create n body)).2.index? n = some ⟨body, []⟩) ∨
      ∃ cause, answer = .error cause ∧ cause.kind = .indexCreation ∧
        (e.failCreate = true ∨ e.index? n ≠ none) ∧
        (e.perform (.create n body)).2.index? n = e.index? n := by
  have hindex := index?_perform n (.create n body) e
  rw [create_eq] at h
  dsimp only at hindex
  split at h
  next hfail => exact .inr ⟨_, h, rfl, .inl hfail, hindex.trans (if_neg (by simp [hfail]))⟩
  next hfail =>
    have hallowed : e.failCreate = false := by simpa using hfail
    split at h
    next hsome =>
      have hne : e.index? n ≠ none := Option.isSome_iff_ne_none.mp hsome
      exact .inr ⟨_, h, rfl, .inr hne, hindex.trans (if_neg fun h => hne h.2.2)⟩
    next hnone =>
      have hfree : e.index? n = none := Option.not_isSome_iff_eq_none.mp hnone
      rw [if_pos ⟨rfl, hallowed, hfree⟩] at hindex
      exact .inl ⟨h, hallowed, hfree, hindex⟩

/-- Nothing was in the way of a new index, which is there now, and empty. -/
theorem takes_reset_ok {index : IndexConfig} (h : ResetTrace index t (.ok ()))
    (ht : Takes dataset e t e') :
    e.failCreate = false ∧ e'.index? index.name = some ⟨index.body, []⟩ ∧
      e'.bulkCalls = e.bulkCalls := by
  cases h with
  | created =>
    simp only [takes_called, takes_nil] at ht
    obtain ⟨-, hcreate, rfl⟩ := ht
    rcases create_spec hcreate with ⟨-, hallowed, -, hindex⟩ | ⟨_, herror, -⟩
    · exact ⟨hallowed, hindex, bulkCalls_perform (.create ..) _⟩
    · cases herror
  | recreated =>
    simp only [takes_called, takes_nil] at ht
    obtain ⟨-, -, hcreate, rfl⟩ := ht
    rcases create_spec hcreate with ⟨-, hallowed, -, hindex⟩ | ⟨_, herror, -⟩
    · exact ⟨hallowed, hindex, bulkCalls_perform (.create ..) _⟩
    · cases herror

/-- The creation was refused.  The index is gone: it was deleted before, or it was not there. -/
theorem takes_reset_error {index : IndexConfig} {err : Run.Error}
    (h : ResetTrace index t (.error err)) (ht : Takes dataset e t e') :
    e.failCreate = true ∧ e'.index? index.name = none ∧
      ((∃ cause, err = .indexRecreate index.name cause) ∧ e.index? index.name ≠ none ∨
        (∃ cause, err = .service cause ∧ cause.kind = .indexCreation) ∧
          e.index? index.name = none) := by
  cases h with
  -- An engine never fails to look for an index or to delete it.
  | unclear cause => cases ht.1
  | undeleted cause => cases ht.2.1
  | uncreated cause =>
    simp only [takes_called, takes_nil] at ht
    obtain ⟨hexists, hcreate, rfl⟩ := ht
    have habsent : (e.index? index.name).isSome = false := (Except.ok.inj hexists).symm
    have hfree : e.index? index.name = none := by simpa using habsent
    rcases create_spec hcreate with ⟨hok, -⟩ | ⟨_, herror, hkind, hrefused, hindex⟩
    · cases hok
    obtain rfl := Except.error.inj herror
    exact ⟨hrefused.resolve_right fun h => h hfree, hindex.trans hfree,
      .inr ⟨⟨cause, rfl, hkind⟩, hfree⟩⟩
  | lost cause =>
    simp only [takes_called, takes_nil] at ht
    obtain ⟨hexists, -, hcreate, rfl⟩ := ht
    have hthere : e.index? index.name ≠ none :=
      Option.isSome_iff_ne_none.mp (Except.ok.inj hexists).symm
    have hgone : ((e.perform (.exists index.name)).2.perform (.delete index.name)).2.index?
        index.name = none := (index?_perform ..).trans (if_pos rfl)
    rcases create_spec hcreate with ⟨hok, -⟩ | ⟨_, herror, -, hrefused, hindex⟩
    · cases hok
    exact ⟨hrefused.resolve_right fun h => h hgone, hindex.trans hgone,
      .inl ⟨⟨cause, rfl⟩, hthere⟩⟩

/-! ## Bulk requests -/

/-- A bulk request, to an index that is there: the accepted documents are added, or the engine was
told to fail the request. -/
theorem bulk_spec {n : String} {records : List Record} {stored : StoredIndex}
    {answer : (Call.bulk n records).Result} (h : answer = (e.perform (.bulk n records)).1)
    (hindex : e.index? n = some stored) :
    (answer = .ok (e.summaryOf records) ∧
        e.failBulkOnCall ≠ some (e.bulkCalls.length + 1) ∧
        (e.perform (.bulk n records)).2.index? n =
          some ⟨stored.body, stored.documents ++ e.acceptedOf records⟩) ∨
      ∃ cause, answer = .error cause ∧ cause.kind = .bulkIndex ∧
        e.failBulkOnCall = some (e.bulkCalls.length + 1) ∧
        (e.perform (.bulk n records)).2.index? n = some stored := by
  have hafter := index?_perform n (.bulk n records) e
  dsimp only at hafter
  rw [indexOrNew_eq, hindex, Option.getD_some] at hafter
  rw [bulk_eq] at h
  split at h
  next hfail =>
    rw [if_neg fun h => h.2 hfail] at hafter
    exact .inr ⟨_, h, rfl, hfail, hafter⟩
  next hfail =>
    rw [if_pos ⟨rfl, hfail⟩] at hafter
    exact .inl ⟨h, hfail, hafter⟩

/-- Successful bulk requests, one after another: the accepted documents of all of them are added. -/
theorem takes_wrote {n : String} {stored : StoredIndex} {pending : List (List Record)}
    {outcomes : List BulkSummary} (hlength : outcomes.length = pending.length)
    (ht : Takes dataset e (wrote n pending outcomes) e') (hindex : e.index? n = some stored) :
    outcomes = pending.map e.summaryOf ∧
      e'.index? n = some ⟨stored.body, stored.documents ++ pending.flatMap e.acceptedOf⟩ ∧
      e'.bulkCalls = e.bulkCalls ++ pending ∧
      ∀ j, 1 ≤ j → j ≤ pending.length →
        e.failBulkOnCall ≠ some (e.bulkCalls.length + j) := by
  induction pending generalizing e stored outcomes with
  | nil =>
    obtain rfl := List.eq_nil_of_length_eq_zero hlength
    obtain rfl := ht
    refine ⟨rfl, ?_, (List.append_nil _).symm, fun j hpos hle =>
      absurd (Nat.le_trans hpos hle) (Nat.not_succ_le_zero 0)⟩
    rw [List.flatMap_nil, List.append_nil]
    exact hindex
  | cons batch rest ih =>
    cases outcomes with
    | nil => cases hlength
    | cons outcome outcomes =>
      obtain ⟨hanswer, ht⟩ := takes_called.mp ht
      have hsame := sameSettings_perform (.bulk n batch) e
      have hcalls := bulkCalls_perform (.bulk n batch) e
      rcases bulk_spec hanswer hindex with ⟨hok, hfirst, hafter⟩ | ⟨_, herror, -⟩
      · obtain ⟨houtcomes, hindex', hbulk, hrest⟩ := ih (Nat.succ.inj hlength) ht hafter
        rw [hsame.summaryOf] at houtcomes
        rw [hsame.acceptedOf] at hindex'
        rw [hcalls] at hbulk hrest
        rw [hsame.failBulkOnCall] at hrest
        refine ⟨?_, ?_, ?_, fun j hpos hle => ?_⟩
        · rw [Except.ok.inj hok, houtcomes, List.map_cons]
        · rw [hindex', List.flatMap_cons, List.append_assoc]
        · rw [hbulk, List.append_assoc, List.singleton_append]
        · -- The requests are counted on from this one.
          obtain ⟨j, rfl⟩ := Nat.exists_eq_add_of_le hpos
          cases j with
          | zero => exact hfirst
          | succ j =>
            have hne := hrest (j + 1) (by omega) (by rw [List.length_cons] at hle; omega)
            rwa [List.length_append, List.length_singleton, Nat.add_assoc] at hne
      · cases herror

/-- All records were sent: what the engine accepted of each batch is there. -/
theorem takes_insert_ok {ingest : Ingest} {n : String} {body : Json} {records : List Record}
    {sent : IngestSummary} (h : InsertTrace ingest n records t (.ok sent))
    (ht : Takes dataset e t e') (hindex : e.index? n = some ⟨body, []⟩) :
    (∀ j, 1 ≤ j → j ≤ batchCount ingest.batchSize records.length →
        e.failBulkOnCall ≠ some (e.bulkCalls.length + j)) ∧
      sent.submitted = records.length ∧
      sent.rejected = ((batches ingest.batchSize records).map e.rejectedOf).sum % countLimit ∧
      e'.index? n = some ⟨body, (batches ingest.batchSize records).flatMap e.acceptedOf⟩ := by
  obtain ⟨hsize, outcomes, hlength, rfl, rfl⟩ := h.of_ok
  obtain ⟨houtcomes, hafter, -, hfree⟩ := takes_wrote hlength ht hindex
  rw [length_batches hsize] at hfree
  refine ⟨hfree, rfl, ?_, hafter⟩
  rw [houtcomes]
  unfold insertSummary
  rw [List.map_map]
  rfl

/-- The first batches were written, and the request for the next one failed. -/
theorem takes_insert_error {ingest : Ingest} {n : String} {body : Json} {records : List Record}
    {err : Run.Error} (h : InsertTrace ingest n records t (.error err))
    (ht : Takes dataset e t e') (hindex : e.index? n = some ⟨body, []⟩) :
    ((∃ detail, err = .config detail) ∧ ingest.batchSize = 0 ∧ e'.index? n = some ⟨body, []⟩) ∨
      ∃ cause j, err = .service cause ∧ cause.kind = .bulkIndex ∧ 1 ≤ j ∧
        j ≤ batchCount ingest.batchSize records.length ∧
        e.failBulkOnCall = some (e.bulkCalls.length + j) ∧
        e'.bulkCalls = e.bulkCalls ++ (batches ingest.batchSize records).take j ∧
        e'.index? n =
          some ⟨body, ((batches ingest.batchSize records).take (j - 1)).flatMap e.acceptedOf⟩ := by
  rcases h.of_error with ⟨hdetail, hsize, rfl⟩ |
    ⟨hsize, before, after, batch, outcomes, cause, hbatches, hlength, rfl, rfl⟩
  · obtain rfl := ht
    exact .inl ⟨hdetail, hsize, hindex⟩
  · obtain ⟨between, hwrote, hlast⟩ := takes_append.mp ht
    obtain ⟨-, hmiddle, hbulk, -⟩ := takes_wrote hlength hwrote hindex
    have hsame := sameSettings_of_takes hwrote
    obtain ⟨hanswer, rfl⟩ := takes_called.mp hlast
    rcases bulk_spec hanswer hmiddle with ⟨hok, -⟩ | ⟨_, herror, hkind, hfail, hafter⟩
    · cases hok
    obtain rfl := Except.error.inj herror
    -- The batch that failed has one batch more than `before` up to it.
    have hle : before.length + 1 ≤ batchCount ingest.batchSize records.length := by
      rw [← length_batches hsize, hbatches, List.length_append, List.length_cons]
      omega
    refine .inr ⟨cause, before.length + 1, rfl, hkind, Nat.le_add_left .., hle, ?_, ?_, ?_⟩
    · rw [← hsame.failBulkOnCall, hfail, hbulk, List.length_append, Nat.add_assoc]
    · rw [bulkCalls_perform, hbatches, List.take_length_add_append]
      change between.bulkCalls ++ [batch] = _
      rw [hbulk, List.append_assoc]
      rfl
    · rw [hbatches, Nat.add_sub_cancel, List.take_left]
      exact hafter

/-! ## The count -/

theorem count_answer {n : String} {stored : StoredIndex} (hindex : e.index? n = some stored) :
    (e.perform (.count n)).1 = .ok stored.documents.length := by
  rw [count_eq, hindex]

end Reindex.Search.Engine
