import Reindex.Proofs.Procedure
import Reindex.Run.Readiness

/-!
# The pings of a load

Which pings go out while a load waits for the service, and how the wait ends after each sequence of
answers.  `AttemptsJournal` has every entry of the attempts, with their events and pauses; what is
said of pings alone is derived from it.
-/

namespace Reindex.Run

open Search (Call)
open Procedure

/-- Pings, one for each of the answers. -/
def pinged (answers : List (Call.Result .ping)) : List Entry := answers.map (.called .ping)

theorem calls_pinged (answers : List (Call.Result .ping)) :
    (pinged answers).filterMap Entry.call? = List.replicate answers.length .ping := by
  rw [pinged, List.filterMap_map]
  exact List.eq_replicate_iff.mpr (by simp [Function.comp_def, Entry.call?])

/-- The pings of a wait and its result.  Only the last ping can have been answered with `true`; if
it was not, every ping that is allowed was made. -/
inductive ProbeTrace (r : Readiness) : List Entry → Except Error Nat → Prop where
  | pointless (hmax : r.maxAttempts = 0) :
      ProbeTrace r [] (.error (.config "max attempts must be at least 1"))
  | ready (refused : List (Call.Result .ping)) (hrefused : ∀ x ∈ refused, x ≠ .ok true)
      (hlt : refused.length < r.maxAttempts) :
      ProbeTrace r (pinged (refused ++ [.ok true])) (.ok (refused.length + 1))
  | exhausted (refused : List (Call.Result .ping)) (last : Call.Result .ping) (refusal : String)
      (hrefused : ∀ x ∈ refused, x ≠ .ok true) (hlast : Readiness.refusal? last = some refusal)
      (hmax : refused.length + 1 = r.maxAttempts) :
      ProbeTrace r (pinged (refused ++ [last])) (.error (.connectivity r.maxAttempts refusal))

theorem ProbeTrace.maxAttempts_pos {r : Readiness} {t : List Entry} {attempts : Nat}
    (h : ProbeTrace r t (.ok attempts)) : 1 ≤ r.maxAttempts := by
  cases h with
  | ready refused hrefused hlt => exact Nat.one_le_of_lt hlt

namespace Readiness

theorem refusal?_eq_none_iff {x : Call.Result .ping} : refusal? x = none ↔ x = .ok true := by
  match x with
  | .ok true => exact iff_of_true rfl rfl
  | .ok false => exact iff_of_false (by simp [refusal?]) (by simp)
  | .error e => exact iff_of_false (by simp [refusal?]) (by simp)

theorem ne_of_refusal? {x : Call.Result .ping} {refusal : String} (h : refusal? x = some refusal) :
    x ≠ .ok true := by
  rintro rfl
  cases h

/-- The texts of the two kinds of refusal. -/
theorem text_of_refusal {answer : Call.Result .ping} {refusal : String}
    (h : refusal? answer = some refusal) :
    answer = .ok false ∧ refusal = "ping returned a non-success status" ∨
      ∃ e, answer = .error e ∧ refusal = e.message := by
  match answer with
  | .ok true => cases h
  | .ok false => exact .inl ⟨rfl, (Option.some.inj h).symm⟩
  | .error e => exact .inr ⟨e, rfl, (Option.some.inj h).symm⟩

/-- The journal of the attempts from number `attempt` on, of which `left` may follow the first. -/
inductive AttemptsJournal (r : Readiness) :
    (left attempt : Nat) → List Entry → Except Error Nat → Prop where
  | ready (left attempt : Nat) :
      AttemptsJournal r left attempt
        [.called .ping (.ok true), .logged (.serviceReady attempt)] (.ok attempt)
  | exhausted (attempt : Nat) {answer : Call.Result .ping} {refusal : String}
      (hrefusal : refusal? answer = some refusal) :
      AttemptsJournal r 0 attempt
        [.called .ping answer, .logged (.pingFailed attempt refusal),
          .logged (.stillAwaiting attempt r.maxAttempts)]
        (.error (.connectivity attempt refusal))
  | again {left attempt : Nat} {answer : Call.Result .ping} {refusal : String}
      {later : List Entry} {result : Except Error Nat} (hrefusal : refusal? answer = some refusal)
      (hlater : AttemptsJournal r left (attempt + 1) later result) :
      AttemptsJournal r (left + 1) attempt
        (.called .ping answer :: .logged (.pingFailed attempt refusal) ::
          .logged (.stillAwaiting attempt r.maxAttempts) :: .paused r.interval :: later)
        result

theorem attempts_journal {r : Readiness} {left attempt : Nat} {journal : List Entry}
    {result : Except Error Nat} (h : (r.attempts left attempt).Admits journal result) :
    AttemptsJournal r left attempt journal result := by
  unfold attempts at h
  rw [admits_request_bind] at h
  obtain ⟨answer, _, rfl, h⟩ := h
  cases hrefusal : refusal? answer with
  | none =>
    rw [hrefusal] at h
    obtain ⟨_, rfl, rfl, rfl⟩ := h
    obtain rfl := refusal?_eq_none_iff.mp hrefusal
    exact .ready left attempt
  | some refusal =>
    rw [hrefusal] at h
    obtain ⟨_, rfl, _, rfl, h⟩ := h
    cases left with
    | zero =>
      obtain ⟨rfl, rfl⟩ := admits_fail.mp h
      exact .exhausted attempt hrefusal
    | succ left =>
      obtain ⟨_, rfl, h⟩ := h
      exact .again hrefusal (attempts_journal h)
-- The number of the attempt goes up as the number of those left goes down.
termination_by left

/-- The pings of some attempts, and what they end with. -/
theorem AttemptsJournal.trace {r : Readiness} {left attempt : Nat} {journal : List Entry}
    {result : Except Error Nat} (h : AttemptsJournal r left attempt journal result) :
    (∃ refused : List (Call.Result .ping), (∀ x ∈ refused, x ≠ .ok true) ∧
        refused.length ≤ left ∧ contacts journal = pinged (refused ++ [.ok true]) ∧
        result = .ok (refused.length + attempt)) ∨
      ∃ (refused : List (Call.Result .ping)) (last : Call.Result .ping) (refusal : String),
        (∀ x ∈ refused, x ≠ .ok true) ∧ refused.length = left ∧ refusal? last = some refusal ∧
        contacts journal = pinged (refused ++ [last]) ∧
        result = .error (.connectivity (left + attempt) refusal) := by
  induction h with
  | ready left attempt =>
    exact .inl ⟨[], by simp, Nat.zero_le _, rfl, by rw [List.length_nil, Nat.zero_add]⟩
  | exhausted attempt hrefusal =>
    exact .inr ⟨[], _, _, by simp, rfl, hrefusal, rfl, by rw [Nat.zero_add]⟩
  | @again left attempt answer refusal later result hrefusal hlater ih =>
    -- The refused ping comes before those that the induction gives.
    have hcons : ∀ refused : List (Call.Result .ping), (∀ x ∈ refused, x ≠ .ok true) →
        ∀ x ∈ answer :: refused, x ≠ .ok true := fun refused hall =>
      List.forall_mem_cons.mpr ⟨ne_of_refusal? hrefusal, hall⟩
    simp only [contacts_called, contacts_logged, contacts_paused]
    rcases ih with ⟨refused, hall, hle, hcontacts, rfl⟩ |
      ⟨refused, last, why, hall, rfl, hlast, hcontacts, rfl⟩
    · refine .inl ⟨answer :: refused, hcons refused hall, Nat.succ_le_succ hle, ?_, ?_⟩
      · rw [hcontacts]
        rfl
      · rw [List.length_cons, Nat.add_right_comm, Nat.add_assoc]
    · refine .inr ⟨answer :: refused, last, why, hcons refused hall, rfl, hlast, ?_, ?_⟩
      · rw [hcontacts]
        rfl
      · rw [Nat.add_right_comm, Nat.add_assoc]

theorem awaitService_journal {r : Readiness} {left : Nat} {journal : List Entry}
    {result : Except Error Nat} (hmax : r.maxAttempts = left + 1)
    (h : r.awaitService.Admits journal result) :
    ∃ rest, journal = .logged .awaitingService :: rest ∧
      AttemptsJournal r left 1 rest result := by
  unfold awaitService at h
  rw [hmax] at h
  obtain ⟨rest, rfl, h⟩ := h
  exact ⟨rest, rfl, attempts_journal h⟩

theorem awaitService_trace {r : Readiness} {journal : List Entry} {result : Except Error Nat}
    (h : r.awaitService.Admits journal result) : ProbeTrace r (contacts journal) result := by
  cases hmax : r.maxAttempts with
  | zero =>
    unfold awaitService at h
    rw [hmax] at h
    obtain ⟨rfl, rfl⟩ := admits_fail.mp h
    exact .pointless hmax
  | succ left =>
    obtain ⟨rest, rfl, hrest⟩ := awaitService_journal hmax h
    rw [contacts_logged]
    rcases hrest.trace with ⟨refused, hall, hle, hcontacts, rfl⟩ |
      ⟨refused, last, refusal, hall, rfl, hlast, hcontacts, rfl⟩
    · rw [hcontacts]
      exact .ready refused hall (by rw [hmax]; exact Nat.lt_succ_of_le hle)
    · rw [hcontacts, show refused.length + 1 = r.maxAttempts from hmax.symm]
      exact .exhausted refused last refusal hall hlast hmax.symm

end Readiness

end Reindex.Run
