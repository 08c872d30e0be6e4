import Reindex.Proofs.Batches
import Reindex.Proofs.Procedure
import Reindex.Run.Ingest

/-!
# The bulk requests of a load

Which bulk requests go out for a list of records, and what the summary counts afterwards.  The
requests are described by the places of their records: request number `i`, from zero, carries
`piece size i records`.  `SendJournal` has every entry of the loop, with its events and pauses; what
is said of requests alone is derived from it.
-/

namespace Reindex.Run

open Search (BulkSummary)
open Procedure

/-- Successful bulk requests for the first pieces of `records`, one for each of the outcomes. -/
def written (size : Nat) (index : String) (records : List Record) (outcomes : List BulkSummary) :
    List Entry :=
  outcomes.mapIdx fun i outcome => .called (.bulk index (piece size i records)) (.ok outcome)

/-- The summary after one bulk request for every piece, with these outcomes.  What counts as
rejected is the sum of what the outcomes count, as far as a word holds it. -/
def insertSummary (size : Nat) (records : List Record) (outcomes : List BulkSummary) :
    IngestSummary where
  batches := batchCount size records.length
  submitted := records.length
  rejected := (outcomes.map (·.failed)).sum % countLimit
  progress := (List.range (batchCount size records.length)).map fun i =>
    min ((i + 1) * size) records.length

/-- The bulk requests for a list of records and what they end with: one request for each piece, in
order, up to the first that fails. -/
inductive InsertTrace (ingest : Ingest) (index : String) (records : List Record) :
    List Entry → Except Error IngestSummary → Prop where
  | pointless (hsize : ingest.batchSize = 0) :
      InsertTrace ingest index records [] (.error (.config "batch size must be at least 1"))
  | stopped (outcomes : List BulkSummary) (e : Search.Error) (hsize : ingest.batchSize ≠ 0)
      (hlt : outcomes.length < batchCount ingest.batchSize records.length) :
      InsertTrace ingest index records
        (written ingest.batchSize index records outcomes ++
          [.called (.bulk index (piece ingest.batchSize outcomes.length records)) (.error e)])
        (.error (.service e))
  | finished (outcomes : List BulkSummary) (hsize : ingest.batchSize ≠ 0)
      (hlength : outcomes.length = batchCount ingest.batchSize records.length) :
      InsertTrace ingest index records (written ingest.batchSize index records outcomes)
        (.ok (insertSummary ingest.batchSize records outcomes))

/-! ## The loop over the batches -/

/-- Successful bulk requests for the first of `batches`, one for each of the outcomes. -/
def wrote (index : String) (batches : List (List Record)) (outcomes : List BulkSummary) :
    List Entry :=
  List.zipWith (fun batch outcome => .called (.bulk index batch) (.ok outcome)) batches outcomes

/-- The sums of the first numbers, of the first two, and so on, on top of `start`. -/
def runningTotals (start : Nat) : List Nat → List Nat
  | [] => []
  | n :: rest => (start + n) :: runningTotals (start + n) rest

/-- What is logged of the rejections in a batch, if there are some. -/
def rejectionNotes (number : Nat) (outcome : BulkSummary) : List Entry :=
  if outcome.hasFailures then
    [.logged (.batchRejections number outcome.failed (Ingest.firstReason outcome))]
  else []

/-- The pause before the batches that are left, if there are some. -/
def Ingest.pauseBefore (ingest : Ingest) (rest : List (List Record)) : List Entry :=
  if rest.isEmpty then [] else [.paused ingest.pacing]

@[simp] theorem contacts_rejectionNotes (number : Nat) (outcome : BulkSummary) :
    contacts (rejectionNotes number outcome) = [] := by
  simp [rejectionNotes]

@[simp] theorem contacts_pauseBefore (ingest : Ingest) (rest : List (List Record)) :
    contacts (ingest.pauseBefore rest) = [] := by
  simp [Ingest.pauseBefore]

/-- The journal of the loop for the batches that are pending, after those that `sent` counts. -/
inductive SendJournal (ingest : Ingest) (index : String) (total : Nat) :
    List (List Record) → IngestSummary → List Entry → Except Error IngestSummary → Prop where
  | finished (sent : IngestSummary) : SendJournal ingest index total [] sent [] (.ok sent)
  | stopped (batch : List Record) (rest : List (List Record)) (sent : IngestSummary)
      (e : Search.Error) :
      SendJournal ingest index total (batch :: rest) sent
        [.called (.bulk index batch) (.error e),
          .logged (.batchFailed (sent.batches + 1) total sent.submitted (Ingest.firstTitle batch)
            e.message)]
        (.error (.service e))
  | written {batch : List Record} {rest : List (List Record)} {sent : IngestSummary}
      {outcome : BulkSummary} {later : List Entry} {result : Except Error IngestSummary}
      (hlater : SendJournal ingest index total rest (sent.add batch.length outcome.failed) later
        result) :
      SendJournal ingest index total (batch :: rest) sent
        (.called (.bulk index batch) (.ok outcome) ::
          (rejectionNotes (sent.batches + 1) outcome ++
            .logged (.inserted (sent.submitted + batch.length)) ::
              (ingest.pauseBefore rest ++ later)))
        result

section Loop

variable {ingest : Ingest} {index : String} {total : Nat} {pending : List (List Record)}
  {journal : List Entry} {sent : IngestSummary} {result : Except Error IngestSummary}

theorem Ingest.send_journal (h : (ingest.send index total pending sent).Admits journal result) :
    SendJournal ingest index total pending sent journal result := by
  -- The summary grows with every batch, so it is general.
  induction pending generalizing journal sent with
  | nil =>
    obtain ⟨rfl, rfl⟩ := h
    exact .finished sent
  | cons batch rest ih =>
    unfold send at h
    rw [admits_request_bind] at h
    obtain ⟨answer, later, rfl, h⟩ := h
    cases answer with
    | error e =>
      obtain ⟨_, rfl, rfl, rfl⟩ := h
      exact .stopped batch rest sent e
    | ok outcome =>
      replace h := admits_note_if.mp h
      obtain ⟨_, rfl, _, rfl, h⟩ := h
      replace h := admits_wait_unless.mp h
      obtain ⟨_, rfl, h⟩ := h
      exact .written (ih h)

/-- The batches that are pending, up to the first whose request fails. -/
theorem SendJournal.trace (h : SendJournal ingest index total pending sent journal result)
    (hsent : sent.rejected < countLimit) :
    (∃ outcomes e, ∃ hlt : outcomes.length < pending.length,
        contacts journal =
          wrote index pending outcomes ++
            [.called (.bulk index pending[outcomes.length]) (.error e)] ∧
        result = .error (.service e)) ∨
      ∃ outcomes : List BulkSummary, outcomes.length = pending.length ∧
        contacts journal = wrote index pending outcomes ∧
        result = .ok ⟨sent.batches + pending.length,
          sent.submitted + (pending.map List.length).sum,
          (sent.rejected + (outcomes.map (·.failed)).sum) % countLimit,
          sent.progress ++ runningTotals sent.submitted (pending.map List.length)⟩ := by
  induction h with
  | finished sent =>
    have hrejected : sent.rejected % countLimit = sent.rejected := Nat.mod_eq_of_lt hsent
    exact .inr ⟨[], rfl, rfl, by simp [runningTotals, hrejected]⟩
  | stopped batch rest sent e => exact .inl ⟨[], e, Nat.zero_lt_succ _, rfl, rfl⟩
  | @written batch rest sent outcome later result hlater ih =>
    -- However large the number of this batch is, the sum stays a word.
    replace ih := ih (Nat.mod_lt _ (by decide))
    simp only [contacts_called, contacts_append, contacts_rejectionNotes, contacts_logged,
      contacts_pauseBefore, List.nil_append]
    rcases ih with ⟨outcomes, e, hlt, hcontacts, rfl⟩ | ⟨outcomes, hlength, hcontacts, rfl⟩
    · refine .inl ⟨outcome :: outcomes, e, Nat.succ_lt_succ hlt, ?_, rfl⟩
      rw [hcontacts]
      rfl
    · refine .inr ⟨outcome :: outcomes, congrArg Nat.succ hlength, ?_, ?_⟩
      · rw [hcontacts]
        rfl
      · simp only [IngestSummary.add, List.length_cons, List.map_cons, List.sum_cons,
          runningTotals, List.append_assoc, List.singleton_append, Nat.mod_add_mod, Nat.add_assoc,
          Nat.add_comm 1]

end Loop

/-! ## Batches as pieces -/

theorem wrote_batches {size : Nat} (hsize : size ≠ 0) (index : String) (records : List Record)
    {outcomes : List BulkSummary} (hle : outcomes.length ≤ batchCount size records.length) :
    wrote index (batches size records) outcomes = written size index records outcomes := by
  unfold wrote written
  have hlength := length_batches hsize records
  apply List.ext_getElem
  · rw [List.length_zipWith, List.length_mapIdx, hlength, Nat.min_eq_right hle]
  · intro i _ _
    rw [List.getElem_zipWith, List.getElem_mapIdx, getElem_batches hsize]

theorem wrote_take (index : String) (batches : List (List Record)) (outcomes : List BulkSummary) :
    wrote index (batches.take outcomes.length) outcomes = wrote index batches outcomes := by
  have hle : (wrote index batches outcomes).length ≤ outcomes.length := by
    rw [wrote, List.length_zipWith]
    exact Nat.min_le_right ..
  rw [← List.take_of_length_le hle]
  unfold wrote
  rw [List.take_zipWith, List.take_length]

theorem runningTotals_append (start : Nat) (a b : List Nat) :
    runningTotals start (a ++ b) = runningTotals start a ++ runningTotals (start + a.sum) b := by
  induction a generalizing start with
  | nil => rfl
  | cons n rest ih =>
    rw [List.cons_append, runningTotals, runningTotals, ih, List.sum_cons, List.cons_append,
      Nat.add_assoc]

/-- The number of records sent after each of the first pieces. -/
theorem runningTotals_pieces (size k : Nat) (records : List Record) :
    runningTotals 0 ((List.range k).map fun i => (piece size i records).length) =
      (List.range k).map fun i => min ((i + 1) * size) records.length := by
  induction k with
  | zero => rfl
  | succ k ih =>
    -- What the last piece adds to the sum of those before it is the sum of all.
    have hlast : min (k * size) records.length + (piece size k records).length =
        min ((k + 1) * size) records.length := by
      rw [← sum_length_pieces, ← sum_length_pieces, List.range_succ, List.map_append,
        List.sum_append, List.map_singleton, List.sum_singleton]
    rw [List.range_succ, List.map_append, List.map_append, runningTotals_append, ih,
      sum_length_pieces, List.map_singleton, List.map_singleton, runningTotals, runningTotals,
      Nat.zero_add, hlast]

/-- The number of records sent after each batch. -/
theorem runningTotals_batches {size : Nat} (hsize : size ≠ 0) (records : List Record) :
    runningTotals 0 ((batches size records).map List.length) =
      (List.range (batchCount size records.length)).map fun i =>
        min ((i + 1) * size) records.length := by
  rw [batches_eq_map_piece hsize, List.map_map]
  exact runningTotals_pieces ..

theorem insert_pointless {ingest : Ingest} {index : String} {records : List Record}
    {journal : List Entry} {result : Except Error IngestSummary} (hsize : ingest.batchSize = 0)
    (h : (ingest.insert index records).Admits journal result) :
    journal = [] ∧ result = .error (.config "batch size must be at least 1") := by
  unfold Ingest.insert at h
  rw [if_pos hsize] at h
  exact admits_fail.mp h

theorem insert_journal {ingest : Ingest} {index : String} {records : List Record}
    {journal : List Entry} {result : Except Error IngestSummary} (hsize : ingest.batchSize ≠ 0)
    (h : (ingest.insert index records).Admits journal result) :
    ∃ rest, journal = .logged .inserting :: rest ∧
      SendJournal ingest index (batchCount ingest.batchSize records.length)
        (batches ingest.batchSize records) .empty rest result := by
  unfold Ingest.insert at h
  rw [if_neg hsize] at h
  obtain ⟨rest, rfl, h⟩ := h
  refine ⟨rest, rfl, ?_⟩
  rw [← length_batches hsize]
  exact Ingest.send_journal h

theorem insert_trace {ingest : Ingest} {index : String} {records : List Record}
    {journal : List Entry} {result : Except Error IngestSummary}
    (h : (ingest.insert index records).Admits journal result) :
    InsertTrace ingest index records (contacts journal) result := by
  by_cases hsize : ingest.batchSize = 0
  · obtain ⟨rfl, rfl⟩ := insert_pointless hsize h
    exact .pointless hsize
  · obtain ⟨rest, rfl, hrest⟩ := insert_journal hsize h
    have hcount := length_batches hsize records
    rw [contacts_logged]
    rcases hrest.trace (by decide) with ⟨outcomes, e, hlt, hcontacts, rfl⟩ |
      ⟨outcomes, hlength, hcontacts, rfl⟩
    · rw [hcontacts, getElem_batches hsize, wrote_batches hsize _ _ (by omega)]
      exact .stopped outcomes e hsize (hcount ▸ hlt)
    · rw [hcontacts, wrote_batches hsize _ _ (by omega), hcount, sum_length_batches hsize]
      simp only [IngestSummary.empty, Nat.zero_add, List.nil_append, runningTotals_batches hsize]
      exact .finished outcomes hsize (hlength.trans hcount)

/-! ## The trace by its batches -/

theorem InsertTrace.of_ok {ingest : Ingest} {index : String} {records : List Record}
    {t : List Entry} {sent : IngestSummary} (h : InsertTrace ingest index records t (.ok sent)) :
    ingest.batchSize ≠ 0 ∧ ∃ outcomes,
      outcomes.length = (batches ingest.batchSize records).length ∧
      t = wrote index (batches ingest.batchSize records) outcomes ∧
      sent = insertSummary ingest.batchSize records outcomes := by
  cases h with
  | finished outcomes hsize hlength =>
    exact ⟨hsize, outcomes, hlength.trans (length_batches hsize records).symm,
      (wrote_batches hsize index records (Nat.le_of_eq hlength)).symm, rfl⟩

/-- The batches before one of them were written, and nothing was sent after it. -/
theorem InsertTrace.of_error {ingest : Ingest} {index : String} {records : List Record}
    {t : List Entry} {err : Error} (h : InsertTrace ingest index records t (.error err)) :
    (∃ detail, err = .config detail) ∧ ingest.batchSize = 0 ∧ t = [] ∨
      ingest.batchSize ≠ 0 ∧ ∃ (before after : List (List Record)) (batch : List Record)
        (outcomes : List BulkSummary) (e : Search.Error),
        batches ingest.batchSize records = before ++ batch :: after ∧
        outcomes.length = before.length ∧
        t = wrote index before outcomes ++ [.called (.bulk index batch) (.error e)] ∧
        err = .service e := by
  cases h with
  | pointless hsize => exact .inl ⟨⟨_, rfl⟩, hsize, rfl⟩
  | stopped outcomes e hsize hlt =>
    have hlt' : outcomes.length < (batches ingest.batchSize records).length :=
      length_batches hsize records ▸ hlt
    refine .inr ⟨hsize, (batches ingest.batchSize records).take outcomes.length,
      (batches ingest.batchSize records).drop (outcomes.length + 1),
      (batches ingest.batchSize records)[outcomes.length], outcomes, e, ?_, ?_, ?_, rfl⟩
    · rw [← List.drop_eq_getElem_cons hlt', List.take_append_drop]
    · rw [List.length_take, Nat.min_eq_left (Nat.le_of_lt hlt')]
    · rw [wrote_take, wrote_batches hsize index records (Nat.le_of_lt hlt),
        getElem_batches hsize hlt']

end Reindex.Run
