import Mathlib.Algebra.Order.Floor.Div
import Reindex.Proofs.Journal.Batching
import Reindex.Proofs.Journal.Readiness
import Reindex.Proofs.Trace.Entries

/-!
# Pauses

A load pauses between two pings and between two bulk requests, and at no other time.  The loops say
so of all that they do (`awaitService_actions`, `insert_actions`); a load does what they do, one
after the other, with calls of other kinds around them (`Paced`).
-/

namespace Reindex.Run

open Search (BulkSummary Call Engine Service)
open Dataset (Source)
open Procedure

/-! ## Something in between -/

section Intersperse

variable {α β : Type} {f : α → Option β} {sep : α}

theorem intersperse_cons {a : α} {t : List α} (h : t ≠ []) :
    (a :: t).intersperse sep = a :: sep :: t.intersperse sep := by
  obtain ⟨b, rest, rfl⟩ := List.exists_cons_of_ne_nil h
  exact List.intersperse_cons_cons

/-- What is not found in between is found where it was. -/
theorem filterMap_intersperse_of_none (hsep : f sep = none) (t : List α) :
    (t.intersperse sep).filterMap f = t.filterMap f := by
  induction t with
  | nil => rfl
  | cons a rest ih =>
    by_cases hrest : rest = []
    · subst hrest
      rfl
    · rw [intersperse_cons hrest, List.filterMap_cons, List.filterMap_cons_none hsep, ih,
        List.filterMap_cons]

/-- What is found only in between is found once less than there are elements. -/
theorem filterMap_intersperse_of_forall {b : β} (hsep : f sep = some b) {t : List α}
    (h : ∀ a ∈ t, f a = none) :
    (t.intersperse sep).filterMap f = List.replicate (t.length - 1) b := by
  induction t with
  | nil => rfl
  | cons a rest ih =>
    obtain ⟨ha, hall⟩ := List.forall_mem_cons.mp h
    by_cases hrest : rest = []
    · subst hrest
      exact List.filterMap_cons_none ha
    · -- The separator after this element is one more than those in the rest.
      have hlength : rest.length = rest.length - 1 + 1 := by
        have hpos := List.length_pos_iff.mpr hrest
        omega
      rw [intersperse_cons hrest, List.filterMap_cons_none ha, List.filterMap_cons_some hsep,
        ih hall, List.length_cons, Nat.add_sub_cancel, ← List.replicate_succ, ← hlength]

end Intersperse

/-! ## The two loops -/

theorem Readiness.AttemptsJournal.contacts_ne_nil {r : Readiness} {left attempt : Nat}
    {journal : List Entry} {result : Except Error Nat}
    (h : r.AttemptsJournal left attempt journal result) : contacts journal ≠ [] := by
  cases h <;> exact List.cons_ne_nil _ _

/-- Between two pings there is a pause. -/
theorem Readiness.AttemptsJournal.actions {r : Readiness} {left attempt : Nat}
    {journal : List Entry} {result : Except Error Nat}
    (h : r.AttemptsJournal left attempt journal result) :
    Run.actions journal = (contacts journal).intersperse (.paused r.interval) := by
  induction h with
  | ready | exhausted => rfl
  | again hrefusal hlater ih =>
    -- There is another attempt, so its ping comes after the pause.
    simp only [actions_called, actions_logged, actions_paused, contacts_called, contacts_logged,
      contacts_paused]
    rw [intersperse_cons hlater.contacts_ne_nil, ih]

/-- A wait pauses after each ping but the last, however that one is answered. -/
theorem awaitService_actions {r : Readiness} {journal : List Entry} {result : Except Error Nat}
    (h : r.awaitService.Admits journal result) :
    actions journal = (contacts journal).intersperse (.paused r.interval) := by
  cases hmax : r.maxAttempts with
  | zero =>
    unfold Readiness.awaitService at h
    rw [hmax] at h
    obtain ⟨rfl, -⟩ := admits_fail.mp h
    rfl
  | succ left =>
    obtain ⟨rest, rfl, hrest⟩ := Readiness.awaitService_journal hmax h
    rw [actions_logged, contacts_logged, hrest.actions]

section Loop

variable {ingest : Ingest} {index : String} {total : Nat} {pending : List (List Record)}
  {records : List Record} {journal : List Entry} {sent : IngestSummary}
  {result : Except Error IngestSummary}

theorem SendJournal.contacts_ne_nil
    (h : SendJournal ingest index total pending sent journal result) (hpending : pending ≠ []) :
    contacts journal ≠ [] := by
  cases h with
  | finished => exact absurd rfl hpending
  | stopped | written => exact List.cons_ne_nil _ _

/-- Between two bulk requests there is a pause. -/
theorem SendJournal.actions (h : SendJournal ingest index total pending sent journal result) :
    Run.actions journal = (contacts journal).intersperse (.paused ingest.pacing) := by
  induction h with
  | finished | stopped => rfl
  | @written batch rest sent outcome later result hlater ih =>
    have hnotes : Run.actions (rejectionNotes (sent.batches + 1) outcome) = [] := by
      unfold rejectionNotes
      split <;> rfl
    simp only [actions_called, actions_append, hnotes, actions_logged, contacts_called,
      contacts_append, contacts_rejectionNotes, contacts_logged, contacts_pauseBefore,
      List.nil_append]
    rw [ih]
    by_cases hrest : rest = []
    · -- The last batch: nothing comes later, and there is no pause.
      subst hrest
      cases hlater
      rfl
    · -- More batches are pending, so the next request comes after the pause.
      obtain ⟨next, others, rfl⟩ := List.exists_cons_of_ne_nil hrest
      rw [intersperse_cons (hlater.contacts_ne_nil hrest)]
      rfl

/-- The records are written with a pause after each bulk request but the last, however that one is
answered. -/
theorem insert_actions (h : (ingest.insert index records).Admits journal result) :
    actions journal = (contacts journal).intersperse (.paused ingest.pacing) := by
  by_cases hsize : ingest.batchSize = 0
  · obtain ⟨rfl, -⟩ := insert_pointless hsize h
    rfl
  · obtain ⟨rest, rfl, hrest⟩ := insert_journal hsize h
    rw [actions_logged, contacts_logged, hrest.actions]

end Loop

/-! ## The last batch by its number -/

namespace Ingest

/-- Sends numbered batches one by one, and pauses after a batch if its number says that there are
more of them; `total` is the number of all. -/
def sendNumbered (ingest : Ingest) (index : String) (total : Nat) :
    List (List Record × Nat) → IngestSummary → Procedure Error IngestSummary
  | [], sent => return sent
  | (batch, number) :: rest, sent => do
    match ← request (.bulk index batch) with
    | .error e =>
      note (.batchFailed (number + 1) total sent.submitted (firstTitle batch) e.message)
      fail (.service e)
    | .ok summary =>
      let sent := sent.add batch.length summary.failed
      if summary.hasFailures then
        note (.batchRejections (number + 1) summary.failed (firstReason summary))
      note (.inserted sent.submitted)
      if number + 1 < total then wait ingest.pacing
      sendNumbered ingest index total rest sent

/-- Writes the records into an index in numbered batches.  How many there are is computed from the
number of records. -/
def insertNumbered (ingest : Ingest) (index : String) (records : List Record) :
    Procedure Error IngestSummary :=
  if ingest.batchSize = 0 then fail (.config "batch size must be at least 1")
  else do
    note .inserting
    ingest.sendNumbered index (records.length ⌈/⌉ ingest.batchSize)
      (batches ingest.batchSize records).zipIdx .empty

theorem send_eq_sendNumbered (ingest : Ingest) (index : String) {total : Nat}
    {pending : List (List Record)} {sent : IngestSummary}
    (htotal : sent.batches + pending.length = total) :
    ingest.send index total pending sent =
      ingest.sendNumbered index total (pending.zipIdx sent.batches) sent := by
  induction pending generalizing sent with
  | nil => rfl
  | cons batch rest ih =>
    -- The numbers of the batches that are left go up to the number of all.
    have hlast : rest.isEmpty = true ↔ ¬sent.batches + 1 < total := by
      rw [List.isEmpty_iff, ← List.length_eq_zero_iff]
      rw [List.length_cons] at htotal
      omega
    have hpause : ∀ next : Procedure Error IngestSummary,
        (if rest.isEmpty = true then next else wait ingest.pacing >>= fun _ => next) =
          if sent.batches + 1 < total then wait ingest.pacing >>= fun _ => next else next := by
      intro next
      rw [← ite_not]
      exact if_congr (not_iff_comm.mp hlast.symm) rfl rfl
    have hrest : ∀ summary : BulkSummary,
        (sent.add batch.length summary.failed).batches + rest.length = total := by
      intro summary
      rw [← htotal, List.length_cons]
      exact Nat.add_right_comm ..
    rw [List.zipIdx_cons, send, sendNumbered]
    refine congrArg (request (.bulk index batch) >>= ·) (funext fun answer => ?_)
    cases answer with
    | error e => rfl
    | ok summary =>
      dsimp only
      rw [ih (hrest summary), hpause]
      rfl

/-- A load that numbers its batches, and finds the last of them by its number, is the load that
looks whether batches are left. -/
theorem insert_eq_insertNumbered (ingest : Ingest) (index : String) (records : List Record) :
    ingest.insert index records = ingest.insertNumbered index records := by
  unfold insert insertNumbered
  by_cases hsize : ingest.batchSize = 0
  · rw [if_pos hsize, if_pos hsize]
  · -- Rounded up, the quotient is how many pieces the list of the records is cut into.
    have hcount : (batches ingest.batchSize records).length =
        records.length ⌈/⌉ ingest.batchSize := by
      rw [length_batches hsize, Nat.ceilDiv_eq_add_pred_div]
      rfl
    rw [if_neg hsize, if_neg hsize]
    dsimp only
    rw [hcount, send_eq_sendNumbered ingest index ((Nat.zero_add _).trans hcount)]
    rfl

end Ingest

/-! ## The schedule of a load -/

namespace Entry

/-- The operation of the call that an entry is about. -/
def kind? (entry : Entry) : Option Call.Kind := entry.call?.map Call.kind

/-- Is the entry about a fetch, or about a call that is neither a ping nor a bulk request? -/
def isUnpaced : Entry → Bool
  | .called .ping _ | .called (.bulk _ _) _ => false
  | .called _ _ | .fetched _ => true
  | .paused _ | .logged _ => false

end Entry

/-- These actions are pings with a pause between each two, then calls of other kinds and the fetch,
then bulk requests with a pause between each two, and then calls of other kinds again. -/
structure Paced (config : Config) (actions pings between bulks after : List Entry) : Prop where
  order : actions = pings.intersperse (.paused config.readiness.interval) ++
    (between ++ (bulks.intersperse (.paused config.ingest.pacing) ++ after))
  all_pings : ∀ a ∈ pings, a.kind? = some .ping
  unpaced_between : ∀ a ∈ between, a.isUnpaced = true
  all_bulks : ∀ a ∈ bulks, a.kind? = some .bulk
  unpaced_after : ∀ a ∈ after, a.isUnpaced = true
  pinged : 1 ≤ pings.length ∧ pings.length ≤ config.readiness.maxAttempts
  /-- There are no more bulk requests than batches of the dataset that was fetched before. -/
  sent : bulks = [] ∨ ∃ records, .fetched (.ok records) ∈ between ∧
    bulks.length ≤ records.length ⌈/⌉ config.ingest.batchSize

section Paced

variable {config : Config} {actions pings between bulks after : List Entry}

theorem pause?_of_kind {a : Entry} {k : Call.Kind} (h : a.kind? = some k) : a.pause? = none := by
  cases a with
  | called | fetched | logged => rfl
  | paused => cases h

theorem pause?_of_unpaced {a : Entry} (h : a.isUnpaced = true) : a.pause? = none := by
  cases a with
  | called | fetched | logged => rfl
  | paused => cases h

theorem kind?_of_unpaced {a : Entry} (h : a.isUnpaced = true) :
    a.kind? ≠ some .ping ∧ a.kind? ≠ some .bulk := by
  cases a with
  | called c =>
    cases c with
    | ping | bulk => cases h
    | «exists» | delete | create | count => exact ⟨nofun, nofun⟩
  | fetched => exact ⟨nofun, nofun⟩
  | paused | logged => cases h

theorem filterMap_kind?_of_forall {t : List Entry} {k : Call.Kind}
    (h : ∀ a ∈ t, a.kind? = some k) : t.filterMap Entry.kind? = List.replicate t.length k := by
  induction t with
  | nil => rfl
  | cons a rest ih =>
    obtain ⟨ha, hrest⟩ := List.forall_mem_cons.mp h
    rw [List.filterMap_cons_some ha, ih hrest, List.length_cons, List.replicate_succ]

theorem count_kind?_of_forall_ne {t : List Entry} {k : Call.Kind}
    (h : ∀ a ∈ t, a.kind? ≠ some k) : (t.filterMap Entry.kind?).count k = 0 := by
  refine List.count_eq_zero.mpr fun hmem => ?_
  obtain ⟨a, ha, hkind⟩ := List.mem_filterMap.mp hmem
  exact h a ha hkind

/-- The pauses: one less than there are pings, and one less than there are bulk requests. -/
theorem Paced.pauses (h : Paced config actions pings between bulks after) :
    actions.filterMap Entry.pause? =
      List.replicate (pings.length - 1) config.readiness.interval ++
        List.replicate (bulks.length - 1) config.ingest.pacing := by
  have hunpaced : ∀ t : List Entry, (∀ a ∈ t, a.isUnpaced = true) →
      t.filterMap Entry.pause? = [] := fun t ht =>
    List.filterMap_eq_nil_iff.mpr fun a ha => pause?_of_unpaced (ht a ha)
  have hpaced : ∀ (t : List Entry) (k : Call.Kind) (ms : Nat), (∀ a ∈ t, a.kind? = some k) →
      (t.intersperse (.paused ms)).filterMap Entry.pause? = List.replicate (t.length - 1) ms := by
    intro t k ms ht
    have hpause : (Entry.paused ms).pause? = some ms := rfl
    exact filterMap_intersperse_of_forall hpause fun a ha => pause?_of_kind (ht a ha)
  rw [h.order, List.filterMap_append, List.filterMap_append, List.filterMap_append,
    hpaced pings .ping _ h.all_pings, hunpaced between h.unpaced_between,
    hpaced bulks .bulk _ h.all_bulks, hunpaced after h.unpaced_after, List.nil_append,
    List.append_nil]

/-- All pings and bulk requests are among those that are paced. -/
theorem Paced.counts (h : Paced config actions pings between bulks after) :
    (actions.filterMap Entry.kind?).count .ping = pings.length ∧
      (actions.filterMap Entry.kind?).count .bulk = bulks.length := by
  have hunpaced : ∀ t : List Entry, (∀ a ∈ t, a.isUnpaced = true) →
      (t.filterMap Entry.kind?).count .ping = 0 ∧ (t.filterMap Entry.kind?).count .bulk = 0 :=
    fun t ht => ⟨count_kind?_of_forall_ne fun a ha => (kind?_of_unpaced (ht a ha)).1,
      count_kind?_of_forall_ne fun a ha => (kind?_of_unpaced (ht a ha)).2⟩
  have hpaced : ∀ (t : List Entry) (k : Call.Kind) (ms : Nat), (∀ a ∈ t, a.kind? = some k) →
      (t.intersperse (.paused ms)).filterMap Entry.kind? = List.replicate t.length k := by
    intro t k ms ht
    have hpause : (Entry.paused ms).kind? = none := rfl
    rw [filterMap_intersperse_of_none hpause, filterMap_kind?_of_forall ht]
  obtain ⟨hping, hbulk⟩ := hunpaced between h.unpaced_between
  obtain ⟨hping', hbulk'⟩ := hunpaced after h.unpaced_after
  rw [h.order, List.filterMap_append, List.filterMap_append, List.filterMap_append,
    hpaced pings .ping _ h.all_pings, hpaced bulks .bulk _ h.all_bulks]
  simp [List.count_replicate, hping, hbulk, hping', hbulk']

end Paced

/-! ## The steps of a load -/

section Steps

variable {config : Config} {start : State} {journal : List Entry}

theorem reset_unpaced {index : Search.IndexConfig} {result : Except Error Unit}
    (h : (reset index).Admits journal result) : ∀ a ∈ actions journal, a.isUnpaced = true := by
  generalize htrace : actions journal = t
  have hreset : ResetTrace index t result := htrace ▸ reset_actions h
  have hall : t.all Entry.isUnpaced = true := by
    cases hreset <;> rfl
  exact List.all_eq_true.mp hall

/-- What is done is paced if all that is done besides the two loops is unpaced. -/
theorem paced_of_parts {pings between bulks after : List Entry} {probed : Except Error Nat}
    (hmax : 1 ≤ config.readiness.maxAttempts) (hsize : config.ingest.batchSize ≠ 0)
    (hprobe : config.readiness.awaitService.Admits pings probed)
    (hbetween : ∀ a ∈ between, a.isUnpaced = true)
    (hinsert : bulks = [] ∨ ∃ records result, .fetched (.ok records) ∈ between ∧
      (config.ingest.insert config.index.name records).Admits bulks result)
    (hafter : ∀ a ∈ after, a.isUnpaced = true)
    (horder : actions journal = actions pings ++ (between ++ (actions bulks ++ after))) :
    Paced config (actions journal) (contacts pings) between (contacts bulks) after := by
  obtain ⟨answers, hpings, hpos, hle, -⟩ := (Readiness.awaitService_trace hprobe).pings hmax
  have hlength : (contacts pings).length = answers.length := by
    rw [hpings]
    exact List.length_map _
  have hpinged : ∀ a ∈ contacts pings, a.kind? = some .ping := by
    rw [hpings]
    intro a ha
    obtain ⟨answer, -, rfl⟩ := List.mem_map.mp ha
    rfl
  rw [awaitService_actions hprobe] at horder
  -- A load that failed before has nothing in the place of the bulk requests.
  rcases hinsert with rfl | ⟨records, result, hfetched, hinsert⟩
  · exact ⟨horder, hpinged, hbetween, List.forall_mem_nil _, hafter, hlength ▸ ⟨hpos, hle⟩,
      .inl rfl⟩
  · have htrace : InsertTrace config.ingest config.index.name records (contacts bulks) result :=
      insert_trace hinsert
    rw [insert_actions hinsert] at horder
    refine ⟨horder, hpinged, hbetween, ?_, hafter, hlength ▸ ⟨hpos, hle⟩,
      .inr ⟨records, hfetched, ?_⟩⟩
    · intro a ha
      obtain ⟨batch, -, answer, rfl⟩ := htrace.bulks a ha
      rfl
    · rw [Nat.ceilDiv_eq_add_pred_div]
      exact htrace.length_le hsize

/-- The steps of a load are paced, whatever they end with. -/
theorem StepsJournal.paced {outcome : Except StepFailure Report}
    (h : StepsJournal config start journal outcome) (hmax : 1 ≤ config.readiness.maxAttempts)
    (hsize : config.ingest.batchSize ≠ 0) :
    ∃ pings between bulks after, Paced config (actions journal) pings between bulks after := by
  have hfetched : ∀ {calls : List Entry} (result : Except Run.Error (List Record)),
      (∀ a ∈ calls, a.isUnpaced = true) →
        ∀ a ∈ calls ++ [.fetched result], a.isUnpaced = true := fun result hcalls =>
    List.forall_mem_append.mpr ⟨hcalls, List.forall_mem_singleton.mpr rfl⟩
  have hcount : ∀ (result : (Call.count config.index.name).Result),
      ∀ a ∈ [Entry.called _ result], a.isUnpaced = true := fun result =>
    List.forall_mem_singleton.mpr rfl
  have hnone : ∀ a ∈ ([] : List Entry), a.isUnpaced = true := List.forall_mem_nil _
  -- The fetch comes after the calls of the reset, and the count after the bulk requests.
  cases h with
  | probing hprobe =>
    exact ⟨_, [], _, [], paced_of_parts hmax hsize hprobe hnone (.inl rfl) hnone (by simp)⟩
  | @initializing _ calls attempts e hprobe hreset =>
    exact ⟨_, actions calls, _, [], paced_of_parts hmax hsize hprobe (reset_unpaced hreset)
      (.inl rfl) hnone (by simp)⟩
  | @fetching _ calls attempts hprobe hreset detail =>
    exact ⟨_, actions calls ++ [.fetched (.error detail)], _, [], paced_of_parts hmax hsize hprobe
      (hfetched _ (reset_unpaced hreset)) (.inl rfl) hnone (by simp)⟩
  | @ingesting _ calls _ attempts records e hprobe hreset hinsert =>
    exact ⟨_, actions calls ++ [.fetched (.ok records)], _, [], paced_of_parts hmax hsize hprobe
      (hfetched _ (reset_unpaced hreset)) (.inr ⟨records, _, by simp, hinsert⟩) hnone (by simp)⟩
  | @verifying _ calls _ attempts records sent hprobe hreset hinsert e =>
    exact ⟨_, actions calls ++ [.fetched (.ok records)], _, _, paced_of_parts hmax hsize hprobe
      (hfetched _ (reset_unpaced hreset)) (.inr ⟨records, _, by simp, hinsert⟩) (hcount (.error e))
      (by simp)⟩
  | @done _ calls _ attempts records sent hprobe hreset hinsert counted =>
    exact ⟨_, actions calls ++ [.fetched (.ok records)], _, _, paced_of_parts hmax hsize hprobe
      (hfetched _ (reset_unpaced hreset)) (.inr ⟨records, _, by simp, hinsert⟩)
      (hcount (.ok counted)) (by simp)⟩

end Steps

/-! ## The law of pauses -/

theorem paced_of_load {σ : Type} (service : Service σ) (source : Source σ) (config : Config)
    (name : String) (start : State) (s : σ) (hmax : 1 ≤ config.readiness.maxAttempts)
    (hsize : config.ingest.batchSize ≠ 0) :
    let run := (load config name start).run service source s
    ∃ pings between bulks after, Paced config run.actions pings between bulks after := by
  intro run
  -- The entries of a load around those of its steps are events.
  have hactions : run.actions = actions ((steps config start).ownJournal service source s) :=
    (actions_run_load ..).trans (actions_ownJournal ..)
  rw [hactions]
  exact (steps_journal (admits_ownJournal (steps config start) s)).paced hmax hsize

theorem map_kind_calls {σ ε α : Type} (o : Outcome σ ε α) :
    o.calls.map Call.kind = o.actions.filterMap Entry.kind? := by
  have hlogged : ∀ event, Entry.kind? (.logged event) = none := fun _ => rfl
  rw [Outcome.actions, filterMap_actions hlogged]
  exact List.map_filterMap ..

theorem pauses_eq_filterMap_actions {σ ε α : Type} (o : Outcome σ ε α) :
    o.pauses = o.actions.filterMap Entry.pause? := by
  have hlogged : ∀ event, Entry.pause? (.logged event) = none := fun _ => rfl
  exact (filterMap_actions hlogged o.journal).symm

/-- No more pauses are possible than for all pings and for all batches of a dataset of `n`
records. -/
theorem Paced.total_le {config : Config} {actions pings between bulks after : List Entry}
    (h : Paced config actions pings between bulks after) {n : Nat}
    (hn : ∀ records, .fetched (.ok records) ∈ actions → records.length = n) :
    (pings.length - 1) * config.readiness.interval +
        (bulks.length - 1) * config.ingest.pacing ≤
      (config.readiness.maxAttempts - 1) * config.readiness.interval +
        (n ⌈/⌉ config.ingest.batchSize - 1) * config.ingest.pacing := by
  have hbulks : bulks.length ≤ n ⌈/⌉ config.ingest.batchSize := by
    rcases h.sent with rfl | ⟨records, hfetched, hle⟩
    · exact Nat.zero_le _
    · have hmem : .fetched (.ok records) ∈ actions := by
        rw [h.order]
        exact List.mem_append_right _ (List.mem_append_left _ hfetched)
      rwa [hn records hmem] at hle
  exact Nat.add_le_add (Nat.mul_le_mul_right _ (Nat.sub_le_sub_right h.pinged.2 1))
    (Nat.mul_le_mul_right _ (Nat.sub_le_sub_right hbulks 1))

/-- A load pauses once between each two pings and once between each two bulk requests, for any
service and any source, and it does not pause before the first or after the last of them, however
that one was answered.  The pauses together are those, and no more than the configuration and the
dataset allow.  Nothing changes if the loops find their last turn by its number: the attempts in a
32-bit word, and the batches among as many as the number of records gives. -/
theorem pauses_of_load {σ : Type} (service : Service σ) (source : Source σ) (config : Config)
    (name : String) (start : State) (s : σ) (hmax : 1 ≤ config.readiness.maxAttempts)
    (hsize : 1 ≤ config.ingest.batchSize) :
    let run := (load config name start).run service source s
    let pings := (run.calls.map Call.kind).count .ping
    let bulks := (run.calls.map Call.kind).count .bulk
    (∃ ps between bs after, Paced config run.actions ps between bs after) ∧
      1 ≤ pings ∧
      run.pauses = List.replicate (pings - 1) config.readiness.interval ++
        List.replicate (bulks - 1) config.ingest.pacing ∧
      run.pauses.sum = (pings - 1) * config.readiness.interval +
        (bulks - 1) * config.ingest.pacing ∧
      (∀ n, (∀ records, .fetched (.ok records) ∈ run.journal → records.length = n) →
        run.pauses.sum ≤ (config.readiness.maxAttempts - 1) * config.readiness.interval +
          (n ⌈/⌉ config.ingest.batchSize - 1) * config.ingest.pacing) ∧
      (config.readiness.maxAttempts < 2 ^ 32 → ∀ overflow : Procedure Error Nat,
        config.readiness.awaitService = note .awaitingService >>= fun _ =>
          config.readiness.counted (.ofNat config.readiness.maxAttempts) overflow 0) ∧
      ∀ index records, config.ingest.insert index records =
        config.ingest.insertNumbered index records := by
  intro run pings bulks
  obtain ⟨ps, between, bs, after, hpaced⟩ := paced_of_load service source config name start
    s hmax (Nat.pos_iff_ne_zero.mp hsize)
  have hpings : pings = ps.length :=
    (congrArg (List.count .ping) (map_kind_calls run)).trans hpaced.counts.1
  have hbulks : bulks = bs.length :=
    (congrArg (List.count .bulk) (map_kind_calls run)).trans hpaced.counts.2
  have hpauses : run.pauses = List.replicate (pings - 1) config.readiness.interval ++
      List.replicate (bulks - 1) config.ingest.pacing := by
    rw [hpings, hbulks, ← hpaced.pauses]
    exact pauses_eq_filterMap_actions run
  have htotal : run.pauses.sum = (pings - 1) * config.readiness.interval +
      (bulks - 1) * config.ingest.pacing := by
    rw [hpauses, List.sum_append_nat, List.sum_replicate_nat, List.sum_replicate_nat]
  refine ⟨⟨ps, between, bs, after, hpaced⟩, ?_, hpauses, htotal, ?_, ?_, ?_⟩
  · rw [hpings]
    exact hpaced.pinged.1
  · intro n hn
    rw [htotal, hpings, hbulks]
    exact hpaced.total_le fun records hmem => hn records (List.mem_filter.mp hmem).1
  · intro hword overflow
    exact Readiness.awaitService_eq_counted hmax hword overflow
  · intro index records
    exact config.ingest.insert_eq_insertNumbered index records

/-- Five records in batches of two, where the second of three bulk requests fails, for an engine
that is ready for its second ping. -/
theorem pauses_of_stopped_load :
    let config : Config := ⟨.movies "movies", ⟨3, 7⟩, ⟨2, 5⟩⟩
    let engine := { lateEngine with failBulkOnCall := some 2 }
    let source : Source Engine := .constant (.ok (List.replicate 5 ⟨[]⟩))
    let run := (load config "memory" .idle).run Engine.service source engine
    1 ≤ config.readiness.maxAttempts ∧ 1 ≤ config.ingest.batchSize ∧
      run.calls.map Call.kind = [.ping, .ping, .exists, .delete, .create, .bulk, .bulk] ∧
      run.pauses = [7, 5] ∧
      (∃ ps between bs after, Paced config run.actions ps between bs after) ∧
      run.pauses.sum ≤ (3 - 1) * 7 + (5 ⌈/⌉ 2 - 1) * 5 := by
  intro config engine source run
  obtain ⟨hpaced, -, -, -, hbound, -⟩ := pauses_of_load Engine.service source config "memory" .idle
    engine (by decide) (by decide)
  refine ⟨by decide, by decide, by decide +kernel, by decide +kernel, hpaced, ?_⟩
  apply hbound
  intro records hfetched
  -- The source has only the five records to give.
  obtain ⟨-, hreplays⟩ := exists_loadTrace Engine.service source config "memory" .idle engine
  have hmem : .fetched (.ok records) ∈ run.contacts := List.mem_filter.mpr ⟨hfetched, rfl⟩
  obtain rfl := Except.ok.inj (eq_of_fetched hreplays hmem)
  rfl

end Reindex.Run
