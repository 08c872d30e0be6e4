import Reindex.Proofs.Engine.Steps
import Reindex.Proofs.Trace.Order

/-!
# What an engine holds after a history of calls

An index holds what was written to it since it was created, and nothing else: its content, and with
it every answer about it, is read off the calls and their answers.  One call first, then any
sequence of them.
-/

namespace Reindex.Search

open Run (Entry lateEngine threeRecords)

/-! ## What calls were about -/

/-- The records of a bulk request. -/
def Call.records? : Call → Option (List Record)
  | .bulk _ records => some records
  | _ => none

/-- The entry deletes the index `n`. -/
def deletes (n : String) : Entry → Bool
  | .called (.delete m) (.ok _) => m = n
  | _ => false

/-- What an entry creates the index `n` with, if `n` is missing: a bulk request creates it without
settings. -/
def creation? (n : String) : Entry → Option Json
  | .called (.create m body) (.ok _) => if m = n then some body else none
  | .called (.bulk m _) (.ok _) => if m = n then some (.object []) else none
  | _ => none

/-- The documents that an entry adds to the index `n`, where the last `rejected` of every bulk
request are rejected. -/
def additions (rejected : Nat) (n : String) : Entry → List Record
  | .called (.bulk m records) (.ok _) =>
    if m = n then records.take (records.length - min rejected records.length) else []
  | _ => []

namespace Engine

/-- The engine after some calls, one after another. -/
def after (e : Engine) : List Call → Engine
  | [] => e
  | c :: rest => (e.perform c).2.after rest

/-- The calls with the answers that they get, one after another. -/
def history (e : Engine) : List Call → List Entry
  | [] => []
  | c :: rest => .called c (e.perform c).1 :: (e.perform c).2.history rest

variable {e e' : Engine} {n : String} {c : Call}

theorem after_append (e : Engine) (a b : List Call) : e.after (a ++ b) = (e.after a).after b := by
  induction a generalizing e with
  | nil => rfl
  | cons c rest ih => exact ih (e.perform c).2

theorem sameSettings_after (e : Engine) (calls : List Call) : SameSettings e (e.after calls) := by
  induction calls generalizing e with
  | nil => exact .refl e
  | cons c rest ih => exact (sameSettings_perform c e).trans (ih (e.perform c).2)

/-! ## One call -/

/-- An entry about another index, or about none, does nothing to the index `n`. -/
theorem idle_of_ne (answer : c.Result) (h : c.index? ≠ some n) (rejected : Nat) :
    deletes n (.called c answer) = false ∧ creation? n (.called c answer) = none ∧
      additions rejected n (.called c answer) = [] := by
  have hne : ∀ m, c.index? = some m → ¬m = n := fun m hm heq => h (heq ▸ hm)
  cases c with
  | ping | «exists» m | count m => exact ⟨rfl, rfl, rfl⟩
  | delete m =>
    cases answer with
    | ok => exact ⟨decide_eq_false (hne m rfl), rfl, rfl⟩
    | error => exact ⟨rfl, rfl, rfl⟩
  | create m body =>
    cases answer with
    | ok => exact ⟨rfl, if_neg (hne m rfl), rfl⟩
    | error => exact ⟨rfl, rfl, rfl⟩
  | bulk m records =>
    cases answer with
    | ok => exact ⟨rfl, if_neg (hne m rfl), if_neg (hne m rfl)⟩
    | error => exact ⟨rfl, rfl, rfl⟩

/-- What an entry makes of an index that is there, or that is missing. -/
def afterEntry (rejected : Nat) (n : String) (entry : Entry) (index : Option StoredIndex) :
    Option StoredIndex :=
  if deletes n entry then none
  else match index with
    | some old => some ⟨old.body, old.documents ++ additions rejected n entry⟩
    | none => (creation? n entry).map (⟨·, additions rejected n entry⟩)

theorem afterEntry_idle {rejected : Nat} {entry : Entry} (hdeletes : deletes n entry = false)
    (hcreation : creation? n entry = none) (hadditions : additions rejected n entry = [])
    (index : Option StoredIndex) : afterEntry rejected n entry index = index := by
  unfold afterEntry
  rw [hdeletes, hcreation, hadditions]
  cases index with
  | some old => simp only [List.append_nil, Bool.false_eq_true, if_false]
  | none => rfl

/-- A call deletes an index, adds to it, creates it, or leaves it as it is. -/
theorem index?_call (n : String) (c : Call) (e : Engine) :
    (e.perform c).2.index? n =
      afterEntry e.rejectPerBatch n (.called c (e.perform c).1) (e.index? n) := by
  by_cases hc : c.index? = some n
  case neg =>
    obtain ⟨hdeletes, hcreation, hadditions⟩ :=
      idle_of_ne (e.perform c).1 hc e.rejectPerBatch
    rw [index?_perform_of_ne hc, afterEntry_idle hdeletes hcreation hadditions]
  -- The call is about this index.
  rw [index?_perform]
  cases c with
  | ping => cases hc
  | «exists» | count => exact (afterEntry_idle rfl rfl rfl _).symm
  | delete m =>
    obtain rfl := Option.some.inj hc
    simp [afterEntry, deletes, perform, respond]
  | create m body =>
    obtain rfl := Option.some.inj hc
    rw [create_eq]
    -- Only a missing index is created, and only if the engine creates any.
    cases hfail : e.failCreate <;> cases hindex : e.index? m <;>
      simp [hindex, afterEntry, deletes, creation?, additions]
  | bulk m records =>
    obtain rfl := Option.some.inj hc
    rw [bulk_eq]
    by_cases hfail : e.failBulkOnCall = some (e.bulkCalls.length + 1)
    · rw [if_pos hfail]
      dsimp only
      rw [if_neg fun h => h.2 hfail, afterEntry_idle rfl rfl rfl]
    · rw [if_neg hfail]
      dsimp only
      rw [if_pos ⟨rfl, hfail⟩, indexOrNew_eq]
      cases e.index? m <;>
        simp [afterEntry, deletes, creation?, additions, acceptedOf, rejectedOf]

/-! ## Any calls -/

/-- The index `n` was there at first, as `old`, and no call has deleted it. -/
structure Kept (e : Engine) (calls : List Call) (n : String) (old : StoredIndex) : Prop where
  there : e.index? n = some old
  undeleted : ∀ entry ∈ e.history calls, deletes n entry = false

/-- The index `n` was missing after the calls `before`; the first of the calls `since` created it
with `body`, and none of them has deleted it. -/
structure Created (e : Engine) (before since : List Call) (n : String) (body : Json) : Prop where
  missing : (e.after before).index? n = none
  created : ((e.after before).history since).head?.bind (creation? n) = some body
  undeleted : ∀ entry ∈ (e.after before).history since, deletes n entry = false

theorem index?_of_kept {calls : List Call} {old : StoredIndex} (h : e.Kept calls n old) :
    (e.after calls).index? n =
      some ⟨old.body,
        old.documents ++ (e.history calls).flatMap (additions e.rejectPerBatch n)⟩ := by
  induction calls generalizing e old with
  | nil => rw [history, List.flatMap_nil, List.append_nil]; exact h.there
  | cons c rest ih =>
    obtain ⟨hfirst, hrest⟩ := List.forall_mem_cons.mp h.undeleted
    have hcall := index?_call n c e
    rw [h.there, afterEntry, hfirst] at hcall
    rw [after, ih ⟨hcall, hrest⟩, (sameSettings_perform c e).rejectPerBatch, history,
      List.flatMap_cons, List.append_assoc]

theorem index?_of_created {before since : List Call} {body : Json}
    (h : e.Created before since n body) :
    (e.after (before ++ since)).index? n =
      some ⟨body,
        ((e.after before).history since).flatMap (additions e.rejectPerBatch n)⟩ := by
  rw [after_append, ← (sameSettings_after e before).rejectPerBatch]
  obtain ⟨hmissing, hcreated, hundeleted⟩ := h
  generalize e.after before = s at *
  cases since with
  | nil => cases hcreated
  | cons c rest =>
    obtain ⟨hfirst, hrest⟩ := List.forall_mem_cons.mp hundeleted
    have hcall := index?_call n c s
    have hbody : creation? n (.called c (s.perform c).1) = some body := hcreated
    rw [hmissing, afterEntry, hfirst, hbody] at hcall
    rw [after, index?_of_kept ⟨hcall, hrest⟩, (sameSettings_perform c s).rejectPerBatch, history,
      List.flatMap_cons]

/-- An index that is there was kept or created. -/
theorem kept_or_created {calls : List Call} {stored : StoredIndex}
    (h : (e.after calls).index? n = some stored) :
    (∃ old, e.Kept calls n old) ∨
      ∃ before since body, calls = before ++ since ∧ e.Created before since n body := by
  induction calls generalizing e with
  | nil => exact .inl ⟨stored, h, fun _ h => absurd h List.not_mem_nil⟩
  | cons c rest ih =>
    have hcall := index?_call n c e
    rcases ih h with ⟨old, hthere, hundeleted⟩ | ⟨before, since, body, rfl, hcreated⟩
    · rw [hthere] at hcall
      unfold afterEntry at hcall
      split at hcall
      · cases hcall
      next hdeletes =>
        have hall : ∀ entry ∈ e.history (c :: rest), deletes n entry = false :=
          List.forall_mem_cons.mpr ⟨Bool.eq_false_iff.mpr hdeletes, hundeleted⟩
        -- The first call left the index there: it was there before, or it is new.
        cases hindex : e.index? n with
        | some old => exact .inl ⟨old, hindex, hall⟩
        | none =>
          rw [hindex] at hcall
          obtain ⟨body, hbody, -⟩ := Option.map_eq_some_iff.mp hcall.symm
          exact .inr ⟨[], c :: rest, body, rfl, hindex, hbody, hall⟩
    · exact .inr ⟨c :: before, since, body, rfl, hcreated.1, hcreated.2, hcreated.3⟩

/-- The pings, the bulk requests and all calls are counted, whatever comes of them. -/
theorem pings_after (e : Engine) (calls : List Call) :
    (e.after calls).pings = e.pings + .ofNat (calls.countP (·.kind = .ping)) := by
  induction calls generalizing e with
  | nil => exact (UInt32.add_zero e.pings).symm
  | cons c rest ih =>
    rw [after, ih, pings_perform, List.countP_cons]
    by_cases hping : c.kind = .ping
    · simp only [hping, decide_true, if_true, UInt32.ofNat_add, Nat.add_comm _ 1,
        ← UInt32.add_assoc]
      rfl
    · simp only [hping, decide_false, Bool.false_eq_true, if_false, Nat.add_zero]

theorem bulkCalls_after (e : Engine) (calls : List Call) :
    (e.after calls).bulkCalls = e.bulkCalls ++ calls.filterMap Call.records? := by
  induction calls generalizing e with
  | nil => exact (List.append_nil _).symm
  | cons c rest ih =>
    rw [after, ih, bulkCalls_perform]
    cases c with
    | bulk m records => exact List.append_assoc ..
    | ping | «exists» | delete | create | count => rfl

theorem calls_after_calls (e : Engine) (calls : List Call) :
    (e.after calls).calls = e.calls ++ calls.map Call.kind := by
  induction calls generalizing e with
  | nil => exact (List.append_nil _).symm
  | cons c rest ih => rw [after, ih, calls_perform, List.append_assoc, List.map_cons,
      List.singleton_append]

/-! ## Answers -/

/-- The answer to a call after the calls `before`, told by them and by what the engine holds.  A
ping has the next number, which is zero after the last one of 32 bits. -/
def Tells (e : Engine) (before : List Call) : (c : Call) → c.Result → Prop
  | .ping, answer =>
    answer = .ok true ↔ ∃ first, e.readyOnPing = some first ∧
      first.toNat ≤ (e.pings.toNat + before.countP (·.kind = .ping) + 1) % 2 ^ 32
  | .exists n, answer => answer = .ok ((e.after before).index? n).isSome
  | .delete _, answer => answer = .ok ()
  | .create n _, answer =>
    answer = .ok () ↔ e.failCreate = false ∧ (e.after before).index? n = none
  | .bulk _ records, answer =>
    if e.failBulkOnCall =
        some (e.bulkCalls.length + (before.filterMap Call.records?).length + 1) then
      ∃ cause, answer = .error cause
    else answer = .ok (e.summaryOf records)
  | .count n, answer =>
    match (e.after before).index? n with
    | some stored => answer = .ok stored.documents.length
    | none => answer = .error ⟨.query, "index_not_found_exception: " ++ n⟩

theorem tells_answer (e : Engine) (before : List Call) (c : Call) :
    e.Tells before c ((e.after before).perform c).1 := by
  have hsettings := sameSettings_after e before
  cases c with
  | ping =>
    change _ ↔ ∃ first, _
    have hnumber : (e.after before).pings + .ofNat 1 =
        e.pings + .ofNat (before.countP (·.kind = .ping) + 1) := by
      rw [pings_after, UInt32.ofNat_add, UInt32.add_assoc]
    rw [ping_answer, readyAfter, hnumber, readyFor_iff, hsettings.readyOnPing]
    simp only [UInt32.le_iff_toNat_le, toNat_pings_add, Nat.add_assoc]
  | «exists» m => rfl
  | delete m => rfl
  | create m body =>
    change _ ↔ _
    rw [create_eq, ← hsettings.failCreate]
    cases (e.after before).failCreate <;> cases (e.after before).index? m <;> simp
  | bulk m records =>
    change if _ then _ else _
    rw [bulk_eq, hsettings.failBulkOnCall, bulkCalls_after, List.length_append,
      hsettings.summaryOf]
    split
    next hfail => exact ⟨_, rfl⟩
    next hfail => rfl
  | count m =>
    change match (e.after before).index? m with | some _ => _ | none => _
    rw [count_eq]
    cases (e.after before).index? m <;> rfl

/-- A request that fails changes no index. -/
theorem indices_of_error {err : Error} (h : (e.perform c).1 = .error err) :
    (e.perform c).2.indices = e.indices := by
  cases c with
  | ping | «exists» => rfl
  | delete m => cases h
  | create m body =>
    unfold perform respond at h ⊢
    dsimp only at h ⊢
    by_cases hfail : e.failCreate = true
    · rw [if_pos hfail]
    · by_cases hsome : (Keyed.get? m e.indices).isSome = true
      · rw [if_neg hfail, if_pos hsome]
      · rw [if_neg hfail, if_neg hsome] at h
        cases h
  | bulk m records =>
    unfold perform respond at h ⊢
    dsimp only at h ⊢
    by_cases hfail : e.failBulkOnCall = some (e.bulkCalls ++ [records]).length
    · rw [if_pos hfail]
    · rw [if_neg hfail] at h
      cases h
  | count m =>
    unfold perform respond
    dsimp only
    cases Keyed.get? m e.indices <;> rfl

/-! ## Calls about some names alone -/

/-- A call names an index of `keep`. -/
def names (keep : String → Bool) (c : Call) : Bool := c.index?.any keep

/-- Engines with the same settings, which hold the same under the names of `keep`, and which fail
no bulk request. -/
structure Matches (keep : String → Bool) (e e' : Engine) : Prop where
  settings : SameSettings e e'
  writes : e.failBulkOnCall = none
  index : ∀ n, keep n → e'.index? n = e.index? n

variable {keep : String → Bool}

theorem Matches.answer (h : Matches keep e e') (hc : names keep c = true) :
    (e'.perform c).1 = (e.perform c).1 := by
  have hindex : ∀ n, c.index? = some n → e'.index? n = e.index? n := fun n hn =>
    h.index n (by simpa [names, hn] using hc)
  cases c with
  | ping => cases hc
  | «exists» m => exact congrArg (fun i => Except.ok i.isSome) (hindex m rfl)
  | delete m => rfl
  | create m body => rw [create_eq, create_eq, h.settings.failCreate, hindex m rfl]
  | bulk m records =>
    -- Without a request to fail it does not matter how many there were.
    rw [bulk_eq, bulk_eq, h.settings.failBulkOnCall, h.writes, h.settings.summaryOf]
    rfl
  | count m => rw [count_eq, count_eq, hindex m rfl]

/-- A call that both engines get keeps them alike. -/
theorem Matches.perform (h : Matches keep e e') (hc : names keep c = true) :
    Matches keep (e.perform c).2 (e'.perform c).2 where
  settings :=
    (sameSettings_perform c e).symm.trans (h.settings.trans (sameSettings_perform c e'))
  writes := (sameSettings_perform c e).failBulkOnCall.trans h.writes
  index n hn := by
    rw [index?_call, index?_call, h.answer hc, h.index n hn, h.settings.rejectPerBatch]

/-- A call about another index, or about none, keeps them alike if only one engine gets it. -/
theorem Matches.skip (h : Matches keep e e') (hc : names keep c = false) :
    Matches keep (e.perform c).2 e' where
  settings := (sameSettings_perform c e).symm.trans h.settings
  writes := (sameSettings_perform c e).failBulkOnCall.trans h.writes
  index n hn := by
    have hne : c.index? ≠ some n := fun heq => by simp [names, heq, hn] at hc
    rw [index?_perform_of_ne hne, h.index n hn]

theorem Matches.history (h : Matches keep e e') (calls : List Call) :
    (e.history calls).filter (fun entry => entry.call?.any (names keep)) =
        e'.history (calls.filter (names keep)) ∧
      Matches keep (e.after calls) (e'.after (calls.filter (names keep))) := by
  induction calls generalizing e e' with
  | nil => exact ⟨rfl, h⟩
  | cons c rest ih =>
    cases hc : names keep c with
    | true =>
      obtain ⟨hhistory, hafter⟩ := ih (h.perform hc)
      rw [Engine.history, List.filter_cons_of_pos (by exact hc), hhistory,
        List.filter_cons_of_pos hc, Engine.history, h.answer hc]
      exact ⟨rfl, hafter⟩
    | false =>
      obtain ⟨hhistory, hafter⟩ := ih (h.skip hc)
      rw [Engine.history, List.filter_cons_of_neg (by simp [Entry.call?, hc]), hhistory,
        List.filter_cons_of_neg (by simp [hc])]
      exact ⟨rfl, hafter⟩

/-! ## The law -/

/-- What a call does after the calls `before`: its answer is told by them, it changes no index but
the one that it names, and none if it fails. -/
structure Lawful (e : Engine) (before : List Call) (c : Call) : Prop where
  answer : e.Tells before c ((e.after before).perform c).1
  failed : ∀ err, ((e.after before).perform c).1 = .error err →
    (e.after (before ++ [c])).indices = (e.after before).indices
  others : ∀ n, c.index? ≠ some n →
    (e.after (before ++ [c])).index? n = (e.after before).index? n

theorem lawful (e : Engine) (before : List Call) (c : Call) : e.Lawful before c where
  answer := tells_answer e before c
  failed err h := by
    rw [after_append]
    exact indices_of_error h
  others n h := by
    rw [after_append]
    exact index?_perform_of_ne h _

/-- The content of an engine, its answers and its records of what was asked, told from all the calls
that it got. -/
theorem content_of_history (e : Engine) (calls : List Call) :
    (∀ n stored, (e.after calls).index? n = some stored ↔
      (∃ old, e.Kept calls n old ∧ stored = ⟨old.body,
          old.documents ++ (e.history calls).flatMap (additions e.rejectPerBatch n)⟩) ∨
        ∃ before since body, calls = before ++ since ∧ e.Created before since n body ∧
          stored = ⟨body,
            ((e.after before).history since).flatMap (additions e.rejectPerBatch n)⟩) ∧
      (∀ before c rest, calls = before ++ c :: rest → e.Lawful before c) ∧
      (e.after calls).calls = e.calls ++ calls.map Call.kind ∧
      (e.after calls).bulkCalls = e.bulkCalls ++ calls.filterMap Call.records? ∧
      (e.failBulkOnCall = none → ∀ keep : String → Bool,
        (e.history calls).filter (fun entry => entry.call?.any (names keep)) =
            e.history (calls.filter (names keep)) ∧
          ∀ n, keep n → (e.after (calls.filter (names keep))).index? n =
            (e.after calls).index? n) := by
  refine ⟨fun n stored => ⟨fun h => ?_, ?_⟩, fun before c _ _ => lawful e before c,
    calls_after_calls e calls, bulkCalls_after e calls, fun hbulk keep => ?_⟩
  · rcases kept_or_created h with ⟨old, hkept⟩ | ⟨before, since, body, rfl, hcreated⟩
    · have hindex := index?_of_kept hkept
      exact .inl ⟨old, hkept, Option.some.inj (h.symm.trans hindex)⟩
    · have hindex := index?_of_created hcreated
      exact .inr ⟨before, since, body, rfl, hcreated, Option.some.inj (h.symm.trans hindex)⟩
  · rintro (⟨old, hkept, rfl⟩ | ⟨before, since, body, rfl, hcreated, rfl⟩)
    · exact index?_of_kept hkept
    · exact index?_of_created hcreated
  · have hmatches : Matches keep e e := ⟨.refl e, hbulk, fun _ _ => rfl⟩
    obtain ⟨hhistory, hafter⟩ := hmatches.history calls
    exact ⟨hhistory, hafter.index⟩

/-- An index that is deleted and created again holds what was written since; writing to another one
creates that one. -/
theorem content_of_new_index :
    let before : List Call := [.bulk "series" threeRecords, .delete "movies", .count "movies"]
    let since : List Call := [.create "movies" .null, .bulk "movies" threeRecords]
    let after := lateEngine.after (before ++ since)
    lateEngine.failBulkOnCall = none ∧
      after.index? "movies" = some ⟨.null, threeRecords.take 2⟩ ∧
      after.index? "series" = some ⟨.object [], threeRecords.take 2⟩ ∧
      (lateEngine.after [.bulk "series" threeRecords]).index? "series" = after.index? "series" := by
  intro before since after
  obtain ⟨hcontent, -, -, -, halone⟩ := content_of_history lateEngine (before ++ since)
  have hmovies : lateEngine.Created before since "movies" .null := ⟨rfl, rfl, by decide +kernel⟩
  have hseries : lateEngine.Created [] (before ++ since) "series" (.object []) :=
    ⟨rfl, rfl, by decide +kernel⟩
  exact ⟨rfl, (hcontent "movies" _).mpr (.inr ⟨before, since, _, rfl, hmovies, rfl⟩),
    (hcontent "series" _).mpr (.inr ⟨[], before ++ since, _, rfl, hseries, rfl⟩),
    (halone rfl (· = "series")).2 "series" (by decide)⟩

end Engine

end Reindex.Search
