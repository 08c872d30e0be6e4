import Reindex.Proofs.Keyed
import Reindex.Proofs.Procedure
import Reindex.Search.Engine

/-!
# What calls do to an engine

An engine is seen through the index that it holds under each name, its counters, and the settings
that no call changes.  One call first, then any sequence of calls.
-/

namespace Reindex.Search.Engine

open Run (Entry Replays)

/-- The index called `n`. -/
def index? (e : Engine) (n : String) : Option StoredIndex := Keyed.get? n e.indices

/-- What decides how an engine answers, apart from what was asked of it, is the same in both. -/
structure SameSettings (e e' : Engine) : Prop where
  readyOnPing : e'.readyOnPing = e.readyOnPing
  failBulkOnCall : e'.failBulkOnCall = e.failBulkOnCall
  failCreate : e'.failCreate = e.failCreate
  rejectPerBatch : e'.rejectPerBatch = e.rejectPerBatch

theorem SameSettings.refl (e : Engine) : SameSettings e e := ⟨rfl, rfl, rfl, rfl⟩

theorem SameSettings.trans {e₁ e₂ e₃ : Engine} (h : SameSettings e₁ e₂) (h' : SameSettings e₂ e₃) :
    SameSettings e₁ e₃ :=
  ⟨h'.readyOnPing.trans h.readyOnPing, h'.failBulkOnCall.trans h.failBulkOnCall,
    h'.failCreate.trans h.failCreate, h'.rejectPerBatch.trans h.rejectPerBatch⟩

theorem SameSettings.symm {e e' : Engine} (h : SameSettings e e') : SameSettings e' e :=
  ⟨h.readyOnPing.symm, h.failBulkOnCall.symm, h.failCreate.symm, h.rejectPerBatch.symm⟩

theorem SameSettings.readyFor {e e' : Engine} (h : SameSettings e e') :
    e'.readyFor = e.readyFor := by
  funext n
  unfold Engine.readyFor
  rw [h.readyOnPing]

theorem SameSettings.rejectedOf {e e' : Engine} (h : SameSettings e e') :
    e'.rejectedOf = e.rejectedOf := by
  funext records
  unfold Engine.rejectedOf
  rw [h.rejectPerBatch]

theorem SameSettings.acceptedOf {e e' : Engine} (h : SameSettings e e') :
    e'.acceptedOf = e.acceptedOf := by
  funext records
  unfold Engine.acceptedOf
  rw [h.rejectedOf]

theorem SameSettings.summaryOf {e e' : Engine} (h : SameSettings e e') :
    e'.summaryOf = e.summaryOf := by
  funext records
  unfold Engine.summaryOf
  rw [h.rejectedOf]

/-! ## One call -/

theorem sameSettings_perform (c : Call) (e : Engine) : SameSettings e (e.perform c).2 := by
  cases c with
  | ping | «exists» | delete => exact ⟨rfl, rfl, rfl, rfl⟩
  | create index body =>
    unfold perform respond
    dsimp only
    split
    · exact ⟨rfl, rfl, rfl, rfl⟩
    · split <;> exact ⟨rfl, rfl, rfl, rfl⟩
  -- Every request is counted, the one that fails included.
  | bulk index records =>
    unfold perform respond
    dsimp only
    split <;> exact ⟨rfl, rfl, rfl, rfl⟩
  | count index =>
    unfold perform respond
    dsimp only
    split <;> exact ⟨rfl, rfl, rfl, rfl⟩

theorem indexOrNew_eq (e : Engine) (n : String) :
    e.indexOrNew n = (e.index? n).getD ⟨.object [], []⟩ := rfl

theorem create_eq (e : Engine) (n : String) (body : Json) :
    (e.perform (.create n body)).1 =
      if e.failCreate then .error ⟨.indexCreation, "status 500"⟩
      else if (e.index? n).isSome then
        .error ⟨.indexCreation, "resource_already_exists_exception"⟩
      else .ok () := by
  unfold perform respond index?
  dsimp only
  split
  · rfl
  · split <;> rfl

theorem bulk_eq (e : Engine) (n : String) (records : List Record) :
    (e.perform (.bulk n records)).1 =
      if e.failBulkOnCall = some (e.bulkCalls.length + 1) then
        .error ⟨.bulkIndex, "connection reset by peer"⟩
      else .ok (e.summaryOf records) := by
  unfold perform respond
  dsimp only
  rw [List.length_append, List.length_singleton]
  split <;> rfl

theorem count_eq (e : Engine) (n : String) :
    (e.perform (.count n)).1 =
      match e.index? n with
      | some stored => .ok stored.documents.length
      | none => .error ⟨.query, "index_not_found_exception: " ++ n⟩ := by
  unfold perform respond index?
  dsimp only
  cases Keyed.get? n e.indices <;> rfl

theorem index?_perform (n : String) (c : Call) (e : Engine) :
    (e.perform c).2.index? n =
      match c with
      | .delete m => if n = m then none else e.index? n
      | .create m body =>
        if n = m ∧ e.failCreate = false ∧ e.index? m = none then some ⟨body, []⟩ else e.index? n
      | .bulk m records =>
        if n = m ∧ e.failBulkOnCall ≠ some (e.bulkCalls.length + 1) then
          some ⟨(e.indexOrNew m).body, (e.indexOrNew m).documents ++ e.acceptedOf records⟩
        else e.index? n
      | _ => e.index? n := by
  cases c with
  | ping | «exists» => rfl
  | delete m => exact Keyed.get?_erase n m e.indices
  | create m body =>
    unfold perform respond index?
    dsimp only
    split
    next hfail => rw [if_neg (by simp [hfail])]
    next hfail =>
      -- An index that is there stays as it is.
      split
      next hsome => rw [if_neg (fun h => by simp [h.2.2] at hsome)]
      next hnone =>
        rw [Option.not_isSome_iff_eq_none] at hnone
        simp only [Keyed.get?_insert, Bool.not_eq_true _ ▸ hfail, hnone, and_true]
  | bulk m records =>
    unfold perform respond index?
    simp only [List.length_append, List.length_singleton]
    split
    next hfail => rw [if_neg fun h => h.2 hfail]
    next hfail => simp only [Keyed.get?_insert, ne_eq, hfail, not_false_eq_true, and_true]
  | count m =>
    unfold perform respond
    dsimp only
    split <;> rfl

/-- A call leaves all indices alone but the one that it names. -/
theorem index?_perform_of_ne {n : String} {c : Call} (h : c.index? ≠ some n) (e : Engine) :
    (e.perform c).2.index? n = e.index? n := by
  rw [index?_perform]
  cases c with
  | ping | «exists» | count => rfl
  | delete m | create m body | bulk m records =>
    -- These three change an index, and it is the one that they name.
    have hne : n ≠ m := fun heq => h (congrArg some heq.symm)
    simp only [hne, false_and, if_false]

theorem bulkCalls_perform (c : Call) (e : Engine) :
    (e.perform c).2.bulkCalls =
      match c with
      | .bulk _ records => e.bulkCalls ++ [records]
      | _ => e.bulkCalls := by
  cases c with
  | ping | «exists» | delete => rfl
  | create m body =>
    unfold perform respond
    dsimp only
    split
    · rfl
    · split <;> rfl
  | bulk m records =>
    unfold perform respond
    dsimp only
    split <;> rfl
  | count m =>
    unfold perform respond
    dsimp only
    split <;> rfl

theorem pings_perform (c : Call) (e : Engine) :
    (e.perform c).2.pings = if c.kind = .ping then e.pings + 1 else e.pings := by
  cases c with
  | ping | «exists» | delete => rfl
  | create m body =>
    unfold perform respond
    dsimp only
    split
    · rfl
    · split <;> rfl
  | bulk m records =>
    unfold perform respond
    dsimp only
    split <;> rfl
  | count m =>
    unfold perform respond
    dsimp only
    split <;> rfl

theorem calls_perform (c : Call) (e : Engine) : (e.perform c).2.calls = e.calls ++ [c.kind] := by
  have hrespond : (e.respond c).2.calls = e.calls := by
    unfold respond
    cases c with
    | ping | «exists» | delete => rfl
    | create m body =>
      dsimp only
      split
      · rfl
      · split <;> rfl
    | bulk m records =>
      dsimp only
      split <;> rfl
    | count m =>
      dsimp only
      split <;> rfl
  exact congrArg (· ++ [c.kind]) hrespond

/-! ## Sequences of calls -/

section Sequences

variable {dataset : Except Run.Error (List Record)} {t : List Entry} {e e' : Engine}

/-- An engine goes from one state to another by the calls of `t`, whose answers are the engine's. -/
abbrev Takes (dataset : Except Run.Error (List Record)) (e : Engine) (t : List Entry)
    (e' : Engine) : Prop :=
  Replays Engine.service (.constant dataset) e t e'

theorem takes_nil : Takes dataset e [] e' ↔ e' = e := Iff.rfl

theorem takes_called {c : Call} {answer : c.Result} :
    Takes dataset e (.called c answer :: t) e' ↔
      answer = (e.perform c).1 ∧ Takes dataset (e.perform c).2 t e' := Iff.rfl

theorem takes_fetched {answer : Except Run.Error (List Record)} :
    Takes dataset e (.fetched answer :: t) e' ↔ answer = dataset ∧ Takes dataset e t e' := Iff.rfl

theorem takes_append {a b : List Entry} :
    Takes dataset e (a ++ b) e' ↔
      ∃ between, Takes dataset e a between ∧ Takes dataset between b e' := Run.replays_append

theorem sameSettings_of_takes (h : Takes dataset e t e') : SameSettings e e' := by
  induction t generalizing e with
  | nil =>
    obtain rfl := h
    exact .refl e'
  | cons entry rest ih =>
    cases entry with
    | called c answer => exact (sameSettings_perform c e).trans (ih h.2)
    | fetched answer => exact ih h.2
    | paused | logged => exact ih h

/-- Calls leave all indices alone that none of them names. -/
theorem index?_of_takes {n : String} (h : Takes dataset e t e')
    (hne : ∀ a ∈ t, ∀ c, a.call? = some c → c.index? ≠ some n) : e'.index? n = e.index? n := by
  induction t generalizing e with
  | nil =>
    obtain rfl := h
    rfl
  | cons entry rest ih =>
    obtain ⟨hentry, hrest⟩ := List.forall_mem_cons.mp hne
    cases entry with
    | called c answer => exact (ih h.2 hrest).trans (index?_perform_of_ne (hentry c rfl) e)
    | fetched answer => exact ih h.2 hrest
    | paused | logged => exact ih h hrest

end Sequences

end Reindex.Search.Engine
