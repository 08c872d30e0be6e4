import Reindex.Proofs.Trace.Order

/-!
# The wait for a service

How a wait ends, how often it pings and what it tells meanwhile, for each sequence of answers that
the pings get; and that its attempts can be counted in a 32-bit word.
-/

namespace Reindex.Run

open Search (Call Engine Service)
open Dataset (Source)
open Procedure

/-! ## Sequences of answers -/

section Answers

variable {σ : Type} (service : Service σ)

/-- The state after some pings in a row. -/
def afterPings (s : σ) : Nat → σ
  | 0 => s
  | n + 1 => afterPings (service.perform .ping s).state n

/-- The answer to a ping after `n` others, all in a row. -/
def pingAnswer (s : σ) (n : Nat) : Call.Result .ping :=
  (service.perform .ping (afterPings service s n)).answer

variable {service}

/-- Pings in a row get these answers. -/
theorem getElem_of_replays_pinged {source : Source σ} {answers : List (Call.Result .ping)}
    {s s' : σ} (h : Replays service source s (pinged answers) s') (i : Nat)
    (hi : i < answers.length) : answers[i] = pingAnswer service s i := by
  induction answers generalizing s i with
  | nil => exact absurd hi (Nat.not_lt_zero i)
  | cons answer rest ih =>
    cases i with
    | zero => exact h.1
    | succ i => exact ih h.2 i (Nat.lt_of_succ_lt_succ hi)

/-- Pings that are all refused but for the last get these answers. -/
theorem answers_of_replays {source : Source σ} {refused : List (Call.Result .ping)}
    {last : Call.Result .ping} {s s' : σ} (hrefused : ∀ x ∈ refused, x ≠ .ok true)
    (h : Replays service source s (pinged (refused ++ [last])) s') :
    (∀ j < refused.length, pingAnswer service s j ≠ .ok true) ∧
      pingAnswer service s refused.length = last := by
  have hget := getElem_of_replays_pinged h
  constructor
  · intro j hj
    rw [← hget j (by rw [List.length_append]; omega), List.getElem_append_left hj]
    exact hrefused _ (List.getElem_mem hj)
  · rw [← hget refused.length (by rw [List.length_append]; exact Nat.lt_succ_self _)]
    exact List.getElem_concat_length rfl _

end Answers

/-- The first answer `true` in a sequence has the number `k`, counted from one. -/
def FirstReady (answer : Nat → Call.Result .ping) (k : Nat) : Prop :=
  ∃ i, k = i + 1 ∧ answer i = .ok true ∧ ∀ j < i, answer j ≠ .ok true

theorem FirstReady.unique {answer : Nat → Call.Result .ping} {k k' : Nat}
    (h : FirstReady answer k) (h' : FirstReady answer k') : k = k' := by
  obtain ⟨i, rfl, hready, hbefore⟩ := h
  obtain ⟨i', rfl, hready', hbefore'⟩ := h'
  have hle : ¬i < i' := fun hlt => hbefore' i hlt hready
  have hge : ¬i' < i := fun hlt => hbefore i' hlt hready'
  omega

/-! ## What is told of the wait -/

/-- The number of the attempt and their bound, in an event that tells of further waiting. -/
def Entry.awaiting? : Entry → Option (Nat × Nat)
  | .logged (.stillAwaiting attempt bound) => some (attempt, bound)
  | _ => none

/-- One event for each refused ping, numbered upwards. -/
theorem Readiness.AttemptsJournal.awaiting {r : Readiness} {left attempt : Nat}
    {journal : List Entry} {result : Except Error Nat}
    (h : r.AttemptsJournal left attempt journal result) :
    ∃ refused, journal.filterMap Entry.awaiting? =
        (List.range' attempt refused).map (·, r.maxAttempts) ∧
      ((∃ e, result = .error e) ∧ refused = left + 1 ∨ result = .ok (attempt + refused)) := by
  induction h with
  | ready left attempt => exact ⟨0, rfl, .inr rfl⟩
  | exhausted attempt hrefusal => exact ⟨1, rfl, .inl ⟨⟨_, rfl⟩, rfl⟩⟩
  | @again left attempt answer refusal later result hrefusal hlater ih =>
    -- The event of this attempt comes before those that the induction gives.
    obtain ⟨refused, htold, hend⟩ := ih
    refine ⟨refused + 1, ?_, ?_⟩
    · rw [List.range'_succ, List.map_cons, ← htold]
      rfl
    · rcases hend with ⟨herror, rfl⟩ | rfl
      · exact .inl ⟨herror, rfl⟩
      · exact .inr (by rw [Nat.add_assoc, Nat.add_comm 1])

/-! ## Counting in a word -/

namespace Readiness

/-- The wait with its attempts counted in a 32-bit word: up by one before a ping, and compared with
the bound after a ping that is refused.  `overflow` is what happens where the next number does not
fit. -/
def counted (r : Readiness) (bound : UInt32) (overflow : Procedure Error Nat) (attempt : UInt32) :
    Procedure Error Nat :=
  if _hmax : attempt.toNat + 1 = UInt32.size then overflow
  else do
    match refusal? (← request .ping) with
    | none =>
      note (.serviceReady (attempt + 1).toNat)
      return (attempt + 1).toNat
    | some refusal =>
      note (.pingFailed (attempt + 1).toNat refusal)
      note (.stillAwaiting (attempt + 1).toNat bound.toNat)
      if attempt + 1 ≥ bound then fail (.connectivity (attempt + 1).toNat refusal)
      else
        wait r.interval
        counted r bound overflow (attempt + 1)
termination_by UInt32.size - attempt.toNat
decreasing_by
  have hlt := attempt.toNat_lt
  rw [UInt32.toNat_add, UInt32.toNat_one]
  simp only [UInt32.size] at *
  omega

variable {r : Readiness} {bound : UInt32} {overflow : Procedure Error Nat}

/-- As long as the bound is not reached, the counter fits, and it counts as the number does. -/
theorem counted_eq (hbound : bound.toNat = r.maxAttempts) {left : Nat} {attempt : UInt32}
    (hleft : attempt.toNat + left + 1 = r.maxAttempts) :
    r.counted bound overflow attempt = r.attempts left (attempt.toNat + 1) := by
  -- The next number is not above the bound, which is a word.
  have hlt := bound.toNat_lt
  have hfits : ¬attempt.toNat + 1 = UInt32.size := by
    simp only [UInt32.size]
    omega
  have hnext : (attempt + 1).toNat = attempt.toNat + 1 := by
    rw [UInt32.toNat_add, UInt32.toNat_one]
    omega
  rw [counted, dif_neg hfits, attempts]
  refine congrArg (request .ping >>= ·) (funext fun answer => ?_)
  cases refusal? answer with
  | none =>
    dsimp only
    rw [hnext]
  | some refusal =>
    dsimp only
    rw [hnext, hbound]
    cases left with
    | zero =>
      have hreached : attempt + 1 ≥ bound := by
        rw [ge_iff_le, UInt32.le_iff_toNat_le]
        omega
      rw [if_pos hreached]
    | succ left =>
      have hbelow : ¬attempt + 1 ≥ bound := by
        rw [ge_iff_le, UInt32.le_iff_toNat_le]
        omega
      have hrest : (attempt + 1).toNat + left + 1 = r.maxAttempts := by omega
      rw [if_neg hbelow, counted_eq hbound hrest, hnext]
termination_by left

/-- Whatever would happen on an overflow, a wait whose bound fits is the wait that counts in a
word. -/
theorem awaitService_eq_counted (hmax : 1 ≤ r.maxAttempts) (hword : r.maxAttempts < 2 ^ 32)
    (overflow : Procedure Error Nat) :
    r.awaitService =
      note .awaitingService >>= fun _ => r.counted (.ofNat r.maxAttempts) overflow 0 := by
  have hbound : (UInt32.ofNat r.maxAttempts).toNat = r.maxAttempts :=
    UInt32.toNat_ofNat_of_lt' hword
  obtain ⟨left, hleft⟩ := Nat.exists_eq_add_of_le' hmax
  have hzero : (0 : UInt32).toNat + left + 1 = r.maxAttempts := by
    rw [hleft, UInt32.toNat_zero, Nat.zero_add]
  rw [counted_eq hbound hzero]
  unfold awaitService
  rw [hleft]
  rfl

end Readiness

/-! ## The end of the wait -/

section Ends

variable {σ : Type} {service : Service σ} {source : Source σ} {r : Readiness} {s s' : σ}
  {t : List Entry} {result : Except Error Nat}

/-- Either the last ping is the first that is answered with `true`, or none is and all that are
allowed were made. -/
theorem ProbeTrace.ends (h : ProbeTrace r t result) (hmax : 1 ≤ r.maxAttempts)
    (hreplays : Replays service source s t s') :
    (∃ k, result = .ok k ∧ FirstReady (pingAnswer service s) k ∧ k ≤ r.maxAttempts ∧
        t.filterMap Entry.call? = List.replicate k .ping) ∨
      ∃ refusal, result = .error (.connectivity r.maxAttempts refusal) ∧
        (∀ j < r.maxAttempts, pingAnswer service s j ≠ .ok true) ∧
        Readiness.refusal? (pingAnswer service s (r.maxAttempts - 1)) = some refusal ∧
        t.filterMap Entry.call? = List.replicate r.maxAttempts .ping := by
  cases h with
  | pointless hzero => omega
  | ready refused hrefused hlt =>
    obtain ⟨hbefore, hlast⟩ := answers_of_replays hrefused hreplays
    refine .inl ⟨_, rfl, ⟨refused.length, rfl, hlast, hbefore⟩, hlt, ?_⟩
    rw [calls_pinged, List.length_append, List.length_singleton]
  | exhausted refused last refusal hrefused hrefusal hlength =>
    obtain ⟨hbefore, hlast⟩ := answers_of_replays hrefused hreplays
    refine .inr ⟨refusal, rfl, ?_, ?_, ?_⟩
    · intro j hj
      by_cases hlt : j < refused.length
      · exact hbefore j hlt
      · obtain rfl : j = refused.length := by omega
        rw [hlast]
        exact Readiness.ne_of_refusal? hrefusal
    · rw [show r.maxAttempts - 1 = refused.length by omega, hlast, hrefusal]
    · rw [calls_pinged, List.length_append, List.length_singleton, hlength]

end Ends

/-! ## The law of the wait -/

/-- How a wait whose pings get these answers pings, tells of it in its own journal, and ends. -/
structure Probing {σ : Type} (r : Readiness) (answer : Nat → Call.Result .ping)
    (run : Outcome σ Error Nat) (own : List Entry) : Prop where
  /-- It succeeds exactly with the number of the first answer `true`, if that comes in time. -/
  ok_iff : ∀ k, run.result = .ok k ↔ FirstReady answer k ∧ k ≤ r.maxAttempts
  /-- Nothing follows that ping, and one event was logged for each ping before it. -/
  ready : ∀ k, run.result = .ok k →
    run.calls = List.replicate k .ping ∧
      own.filterMap Entry.awaiting? = (List.range' 1 (k - 1)).map (·, r.maxAttempts)
  /-- If it does not come in time, all pings are made, and the last answer tells why. -/
  exhausted : (∀ k ≤ r.maxAttempts, ¬FirstReady answer k) →
    run.calls = List.replicate r.maxAttempts .ping ∧
      own.filterMap Entry.awaiting? = (List.range' 1 r.maxAttempts).map (·, r.maxAttempts) ∧
      ∃ text, run.result = .error (.connectivity r.maxAttempts text) ∧
        (answer (r.maxAttempts - 1) = .ok false ∧ text = "ping returned a non-success status" ∨
          ∃ e, answer (r.maxAttempts - 1) = .error e ∧ text = e.message)

section Probing

variable {σ : Type} {r : Readiness} {answer : Nat → Call.Result .ping}
  {run : Outcome σ Error Nat} {own : List Entry}

theorem Probing.of_ready {k : Nat} (hresult : run.result = .ok k) (hfirst : FirstReady answer k)
    (hle : k ≤ r.maxAttempts) (hcalls : run.calls = List.replicate k .ping)
    (htold : own.filterMap Entry.awaiting? = (List.range' 1 (k - 1)).map (·, r.maxAttempts)) :
    Probing r answer run own where
  ok_iff k' := by
    rw [hresult]
    constructor
    · intro heq
      cases heq
      exact ⟨hfirst, hle⟩
    · rintro ⟨hfirst', -⟩
      rw [hfirst.unique hfirst']
  ready k' hok := by
    rw [hresult] at hok
    cases hok
    exact ⟨hcalls, htold⟩
  exhausted hnone := absurd hfirst (hnone k hle)

theorem Probing.of_exhausted {refusal : String}
    (hresult : run.result = .error (.connectivity r.maxAttempts refusal))
    (hbefore : ∀ j < r.maxAttempts, answer j ≠ .ok true)
    (hrefusal : Readiness.refusal? (answer (r.maxAttempts - 1)) = some refusal)
    (hcalls : run.calls = List.replicate r.maxAttempts .ping)
    (htold : own.filterMap Entry.awaiting? =
      (List.range' 1 r.maxAttempts).map (·, r.maxAttempts)) :
    Probing r answer run own where
  ok_iff k := by
    rw [hresult]
    constructor
    · intro heq
      cases heq
    · rintro ⟨⟨i, rfl, hready, -⟩, hle⟩
      exact absurd hready (hbefore i hle)
  ready k hok := by
    rw [hresult] at hok
    cases hok
  exhausted _ := ⟨hcalls, htold, refusal, hresult, Readiness.text_of_refusal hrefusal⟩

end Probing

/-- Each wait pings until the first answer `true`, or as often as it may. -/
theorem probing_of_run {σ : Type} (service : Service σ) (source : Source σ) (r : Readiness) (s : σ)
    (hmax : 1 ≤ r.maxAttempts) :
    let run := r.awaitService.run service source s
    let own := r.awaitService.ownJournal service source s
    Probing r (pingAnswer service s) run own := by
  intro run own
  have hadmits : r.awaitService.Admits own run.result := admits_ownJournal ..
  have hreplays : Replays service source s own run.state := replays_ownJournal ..
  have hcalls : run.calls = (contacts own).filterMap Entry.call? := by
    rw [← contacts_ownJournal]
    exact (filterMap_call?_contacts run.journal).symm
  obtain ⟨left, hleft⟩ := Nat.exists_eq_add_of_le' hmax
  obtain ⟨rest, hown, hrest⟩ := Readiness.awaitService_journal hleft hadmits
  obtain ⟨refused, hawaiting, hcount⟩ := hrest.awaiting
  have htold : own.filterMap Entry.awaiting? =
      (List.range' 1 refused).map (·, r.maxAttempts) := by
    rw [hown]
    exact hawaiting
  -- How the pings end tells how many of them were refused.
  rcases (Readiness.awaitService_trace hadmits).ends hmax hreplays.contacts with
    ⟨k, hresult, hfirst, hle, hpings⟩ | ⟨refusal, hresult, hbefore, hrefusal, hpings⟩
  · have hrefused : refused = k - 1 := by
      rcases hcount with ⟨⟨e, herror⟩, -⟩ | hok
      · rw [hresult] at herror
        cases herror
      · rw [hresult] at hok
        cases hok
        omega
    exact .of_ready hresult hfirst hle (hcalls.trans hpings) (hrefused ▸ htold)
  · have hrefused : refused = r.maxAttempts := by
      rcases hcount with ⟨-, hall⟩ | hok
      · omega
      · rw [hresult] at hok
        cases hok
    exact .of_exhausted hresult hbefore hrefusal (hcalls.trans hpings) (hrefused ▸ htold)

theorem firstReady_congr {answer answer' : Nat → Call.Result .ping} {bound : Nat}
    (h : ∀ i < bound, (answer i = .ok true ↔ answer' i = .ok true)) {k : Nat} (hk : k ≤ bound) :
    FirstReady answer k ↔ FirstReady answer' k := by
  unfold FirstReady
  constructor
  · rintro ⟨i, rfl, hready, hbefore⟩
    refine ⟨i, rfl, (h i hk).mp hready, fun j hj hready' => hbefore j hj ?_⟩
    exact (h j (by omega)).mpr hready'
  · rintro ⟨i, rfl, hready, hbefore⟩
    refine ⟨i, rfl, (h i hk).mpr hready, fun j hj hready' => hbefore j hj ?_⟩
    exact (h j (by omega)).mp hready'

/-- Two waits that agree on which pings are answered with `true` make as many pings, and one
succeeds where the other does. -/
theorem Probing.agree {σ σ' : Type} {r : Readiness} {answer answer' : Nat → Call.Result .ping}
    {run : Outcome σ Error Nat} {run' : Outcome σ' Error Nat} {own own' : List Entry}
    (h : Probing r answer run own) (h' : Probing r answer' run' own')
    (hagree : ∀ i < r.maxAttempts, (answer i = .ok true ↔ answer' i = .ok true)) :
    run'.calls = run.calls ∧ ∀ k, run'.result = .ok k ↔ run.result = .ok k := by
  have hresults : ∀ k, run'.result = .ok k ↔ run.result = .ok k := by
    intro k
    rw [h.ok_iff, h'.ok_iff]
    constructor
    · rintro ⟨hfirst, hle⟩
      exact ⟨(firstReady_congr hagree hle).mpr hfirst, hle⟩
    · rintro ⟨hfirst, hle⟩
      exact ⟨(firstReady_congr hagree hle).mp hfirst, hle⟩
  refine ⟨?_, hresults⟩
  -- Both stop at the same first `true`, or both go on to the bound.
  by_cases hready : ∃ k, run.result = .ok k
  · obtain ⟨k, hok⟩ := hready
    rw [(h.ready k hok).1, (h'.ready k ((hresults k).mpr hok)).1]
  · have hnone : ∀ k ≤ r.maxAttempts, ¬FirstReady answer k := fun k hle hfirst =>
      hready ⟨k, (h.ok_iff k).mpr ⟨hfirst, hle⟩⟩
    have hnone' : ∀ k ≤ r.maxAttempts, ¬FirstReady answer' k := fun k hle hfirst =>
      hnone k hle ((firstReady_congr hagree hle).mpr hfirst)
    rw [(h.exhausted hnone).1, (h'.exhausted hnone').1]

/-- A wait whose bound fits a 32-bit word gives the number of the first ping that is answered with
`true`, if it is one of those allowed, and fails with the last answer if not; it tells of each ping
that was refused.  It can count its attempts in a word, whatever would happen on an overflow.  In
what way a ping is refused changes neither the number of the pings nor whether the wait succeeds. -/
theorem wait_of_answers {σ : Type} (service : Service σ) (source : Source σ) (r : Readiness) (s : σ)
    (hmax : 1 ≤ r.maxAttempts) (hword : r.maxAttempts < 2 ^ 32) :
    let run := r.awaitService.run service source s
    let own := r.awaitService.ownJournal service source s
    Probing r (pingAnswer service s) run own ∧ own.Sublist run.journal ∧
      (∀ overflow : Procedure Error Nat, r.awaitService =
        note .awaitingService >>= fun _ => r.counted (.ofNat r.maxAttempts) overflow 0) ∧
      ∀ {σ' : Type} (service' : Service σ') (source' : Source σ') (s' : σ'),
        (∀ i < r.maxAttempts,
          (pingAnswer service s i = .ok true ↔ pingAnswer service' s' i = .ok true)) →
        let run' := r.awaitService.run service' source' s'
        run'.calls = run.calls ∧ ∀ k, run'.result = .ok k ↔ run.result = .ok k := by
  intro run own
  have hprobing : Probing r (pingAnswer service s) run own := probing_of_run service source r s hmax
  refine ⟨hprobing, ownJournal_sublist .., ?_, ?_⟩
  · intro overflow
    exact Readiness.awaitService_eq_counted hmax hword overflow
  · intro σ' service' source' s' hagree
    exact hprobing.agree (probing_of_run service' source' r s' hmax) hagree

/-- Two waits for an engine that is ready for its second ping, with three attempts and with one. -/
theorem wait_for_late_engine :
    let source : Source Engine := .constant (.ok [])
    let patient : Readiness := ⟨3, 0⟩
    let hasty : Readiness := ⟨1, 0⟩
    (1 ≤ patient.maxAttempts ∧ patient.maxAttempts < 2 ^ 32) ∧
      (1 ≤ hasty.maxAttempts ∧ hasty.maxAttempts < 2 ^ 32) ∧
      (patient.awaitService.run Engine.service source lateEngine).result = .ok 2 ∧
      (hasty.awaitService.run Engine.service source lateEngine).result =
        .error (.connectivity 1 "Connection error: connection refused") ∧
      FirstReady (pingAnswer Engine.service lateEngine) 2 ∧
      Probing hasty (pingAnswer Engine.service lateEngine)
        (hasty.awaitService.run Engine.service source lateEngine)
        (hasty.awaitService.ownJournal Engine.service source lateEngine) := by
  intro source patient hasty
  obtain ⟨hpatient, -⟩ :=
    wait_of_answers Engine.service source patient lateEngine (by decide) (by decide)
  obtain ⟨hhasty, -⟩ :=
    wait_of_answers Engine.service source hasty lateEngine (by decide) (by decide)
  have hok : (patient.awaitService.run Engine.service source lateEngine).result = .ok 2 := by
    decide +kernel
  exact ⟨by decide, by decide, hok, by decide +kernel, ((hpatient.ok_iff 2).mp hok).1, hhasty⟩

end Reindex.Run
