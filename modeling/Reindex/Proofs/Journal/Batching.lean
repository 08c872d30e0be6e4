import Reindex.Proofs.Search.Accounting
import Reindex.Proofs.Trace.Ingest
import Reindex.Proofs.Trace.Order
import Reindex.Search.Fault

/-!
# Batches and what is told of them

Which slices of the records go out, and what the log tells of them: how many records were sent after
each request, and how far the load had come when a request failed.
-/

namespace Reindex.Run

open Search (BulkSummary Client Engine Service)
open Dataset (Source)
open Procedure

/-! ## What the entries tell -/

namespace Entry

/-- The number of records of a bulk request that succeeded. -/
def written? : Entry → Option Nat
  | .called (.bulk _ batch) (.ok _) => some batch.length
  | _ => none

/-- The number of records sent that an event tells of. -/
def inserted? : Entry → Option Nat
  | .logged (.inserted submitted) => some submitted
  | _ => none

/-- What the outcome of a bulk request counts as rejected. -/
def rejected? : Entry → Option Nat
  | .called (.bulk _ _) (.ok outcome) => some outcome.failed
  | _ => none

/-- The event that tells of a bulk request that failed. -/
def batchFailed? : Entry → Option Event
  | .logged (.batchFailed batch total submitted title error) =>
    some (.batchFailed batch total submitted title error)
  | _ => none

end Entry

/-- The sizes of the batches that were written. -/
def writtenSizes (journal : List Entry) : List Nat := journal.filterMap Entry.written?

theorem writtenSizes_contacts (journal : List Entry) :
    writtenSizes (contacts journal) = writtenSizes journal := by
  refine filterMap_contacts (fun entry hentry => ?_) journal
  cases entry with
  | called | fetched => cases hentry
  | paused | logged => rfl

section Loop

variable {ingest : Ingest} {index : String} {total : Nat} {pending : List (List Record)}
  {journal : List Entry} {sent : IngestSummary} {result : Except Error IngestSummary}

/-- In the journal of a batch that was written, what is neither about rejections nor about pauses is
in its request, its progress event, and what comes later. -/
theorem filterMap_batch {β : Type} {f : Entry → Option β}
    (hnotes : ∀ number rejected reason,
      f (.logged (.batchRejections number rejected reason)) = none)
    (hpauses : ∀ ms, f (.paused ms) = none) (batch : List Record) (outcome : BulkSummary)
    (number submitted : Nat) (rest : List (List Record)) (later : List Entry) :
    (.called (.bulk index batch) (.ok outcome) ::
        (rejectionNotes number outcome ++
          .logged (.inserted submitted) :: (ingest.pauseBefore rest ++ later))).filterMap f =
      (f (.called (.bulk index batch) (.ok outcome))).toList ++
        ((f (.logged (.inserted submitted))).toList ++ later.filterMap f) := by
  have hnone : (rejectionNotes number outcome).filterMap f = [] := by
    unfold rejectionNotes
    split
    · exact List.filterMap_cons_none (hnotes ..)
    · rfl
  have hquiet : (ingest.pauseBefore rest).filterMap f = [] := by
    unfold Ingest.pauseBefore
    split
    · rfl
    · exact List.filterMap_cons_none (hpauses _)
  have hcons (entry : Entry) (t : List Entry) :
      (entry :: t).filterMap f = (f entry).toList ++ t.filterMap f := by
    rw [List.filterMap_cons]
    cases f entry <;> rfl
  rw [hcons, List.filterMap_append, hnone, List.nil_append, hcons, List.filterMap_append, hquiet,
    List.nil_append]

/-- The log tells of the running totals of what was written. -/
theorem SendJournal.inserted (h : SendJournal ingest index total pending sent journal result) :
    journal.filterMap Entry.inserted? = runningTotals sent.submitted (writtenSizes journal) := by
  induction h with
  | finished | stopped => rfl
  | written hlater ih =>
    -- The first total is that of this batch, and the others start from it.
    rw [writtenSizes, filterMap_batch (fun _ _ _ => rfl) (fun _ => rfl),
      filterMap_batch (fun _ _ _ => rfl) (fun _ => rfl), ih]
    rfl

/-- A request that failed is the last one, and one event tells of it: what was written before. -/
theorem SendJournal.batchFailed (h : SendJournal ingest index total pending sent journal result) :
    (journal.filterMap Entry.batchFailed? = [] ∧ ∃ summary, result = .ok summary) ∨
      ∃ batch e, (contacts journal).getLast? = some (.called (.bulk index batch) (.error e)) ∧
        result = .error (.service e) ∧
        journal.filterMap Entry.batchFailed? =
          [.batchFailed (sent.batches + (writtenSizes journal).length + 1) total
            (sent.submitted + (writtenSizes journal).sum) (Ingest.firstTitle batch) e.message] := by
  induction h with
  | finished sent => exact .inl ⟨rfl, sent, rfl⟩
  | stopped batch rest sent e => exact .inr ⟨batch, e, rfl, rfl, rfl⟩
  | @written batch rest sent outcome later result hlater ih =>
    rw [writtenSizes, filterMap_batch (fun _ _ _ => rfl) (fun _ => rfl),
      filterMap_batch (fun _ _ _ => rfl) (fun _ => rfl)]
    rcases ih with ⟨hnone, hok⟩ | ⟨failing, e, hlast, hresult, hone⟩
    · exact .inl ⟨hnone, hok⟩
    · refine .inr ⟨failing, e, ?_, hresult, ?_⟩
      · simp only [contacts_called, contacts_append, contacts_rejectionNotes, contacts_logged,
          contacts_pauseBefore, List.nil_append]
        rw [List.getLast?_cons, hlast, Option.getD_some]
      · apply hone.trans
        have hnumber : sent.batches + 1 + (writtenSizes later).length + 1 =
            sent.batches + (batch.length :: writtenSizes later).length + 1 := by
          rw [List.length_cons]
          omega
        have hsubmitted : sent.submitted + batch.length + (writtenSizes later).sum =
            sent.submitted + (batch.length :: writtenSizes later).sum := by
          rw [List.sum_cons, Nat.add_assoc]
        -- The batch that was written is counted in the summary there, and among the sizes here.
        show [Event.batchFailed (sent.batches + 1 + _ + 1) total (sent.submitted + batch.length + _)
          _ _] = _
        rw [hnumber, hsubmitted]
        rfl

end Loop

/-! ## The slices that go out -/

section Slices

variable {ingest : Ingest} {index : String} {records : List Record} {t : List Entry}
  {result : Except Error IngestSummary}

/-- What is found in every request that succeeded is found once for each of the first pieces. -/
theorem filterMap_written {β : Type} {f : Entry → Option β} {g : List Record → β}
    (hf : ∀ batch outcome, f (.called (.bulk index batch) (.ok outcome)) = some (g batch))
    (size : Nat) (outcomes : List BulkSummary) :
    (written size index records outcomes).filterMap f =
      (List.range outcomes.length).map fun i => g (piece size i records) := by
  -- From the end, as the place of an outcome is how many come before it.
  induction outcomes using List.reverseRecOn with
  | nil => rfl
  | append_singleton outcomes outcome ih =>
    unfold written at ih ⊢
    rw [List.mapIdx_concat, List.filterMap_append, ih, List.length_append, List.length_singleton,
      List.range_succ, List.map_append, List.filterMap_cons_some (hf ..)]
    rfl

theorem InsertTrace.length_le (h : InsertTrace ingest index records t result)
    (hsize : ingest.batchSize ≠ 0) : t.length ≤ batchCount ingest.batchSize records.length := by
  cases h with
  | pointless hzero => exact absurd hzero hsize
  | stopped outcomes e _ hlt =>
    rw [List.length_append, written, List.length_mapIdx]
    exact hlt
  | finished outcomes _ hlength =>
    rw [written, List.length_mapIdx]
    exact Nat.le_of_eq hlength

theorem InsertTrace.calls (h : InsertTrace ingest index records t result) :
    t.filterMap Entry.call? =
      (List.range t.length).map fun i => .bulk index (piece ingest.batchSize i records) := by
  have hcall : ∀ batch outcome,
      Entry.call? (.called (.bulk index batch) (.ok outcome)) = some (.bulk index batch) :=
    fun _ _ => rfl
  cases h with
  | pointless => rfl
  | stopped outcomes e =>
    rw [List.filterMap_append, filterMap_written hcall, List.length_append, written,
      List.length_mapIdx, List.length_singleton, List.range_succ, List.map_append]
    rfl
  | finished outcomes =>
    rw [filterMap_written hcall, written, List.length_mapIdx]

/-- If no request of a trace failed, it has one for each piece. -/
theorem InsertTrace.complete (h : InsertTrace ingest index records t result)
    (hsize : ingest.batchSize ≠ 0) (hok : ∀ a ∈ t, a.failed = false) :
    ∃ outcomes, outcomes.length = batchCount ingest.batchSize records.length ∧
      t = written ingest.batchSize index records outcomes ∧
      result = .ok (insertSummary ingest.batchSize records outcomes) := by
  cases h with
  | pointless hzero => exact absurd hzero hsize
  | stopped outcomes e =>
    have hlast := hok _ (List.mem_append_right _ (List.mem_singleton_self _))
    cases hlast
  | finished outcomes _ hlength => exact ⟨outcomes, hlength, rfl, rfl⟩

/-- A request of a trace that failed is the last one. -/
theorem InsertTrace.stopped_at (h : InsertTrace ingest index records t result) {j : Nat}
    {batch : List Record} {e : Search.Error}
    (hj : t[j]? = some (.called (.bulk index batch) (.error e))) :
    ∃ outcomes, outcomes.length = j ∧ j < batchCount ingest.batchSize records.length ∧
      t = written ingest.batchSize index records outcomes ++
        [.called (.bulk index batch) (.error e)] ∧
      result = .error (.service e) := by
  have hwritten : ∀ outcomes : List BulkSummary,
      .called (.bulk index batch) (.error e) ∉
        written ingest.batchSize index records outcomes := by
    intro outcomes hmem
    cases (forall_mem_written _ hmem).1
  cases h with
  | pointless => cases hj
  | stopped outcomes e' hsize hlt =>
    have hlength : (written ingest.batchSize index records outcomes).length = outcomes.length :=
      List.length_mapIdx
    rw [List.getElem?_append, hlength, List.getElem?_singleton] at hj
    -- Before its end the trace holds requests that succeeded.
    by_cases hbefore : j < outcomes.length
    · rw [if_pos hbefore] at hj
      exact absurd (List.mem_of_getElem? hj) (hwritten outcomes)
    · rw [if_neg hbefore] at hj
      split at hj
      next hzero =>
        obtain rfl : j = outcomes.length := by omega
        cases hj
        exact ⟨outcomes, rfl, hlt, rfl, rfl⟩
      next => cases hj
  | finished outcomes => exact absurd (List.mem_of_getElem? hj) (hwritten outcomes)

/-- If no outcome counts more rejections than its batch has records, neither do all together. -/
theorem sum_failed_le {batches : List (List Record)} {outcomes : List BulkSummary}
    (hlength : outcomes.length = batches.length)
    (h : ∀ batch outcome, .called (.bulk index batch) (.ok outcome) ∈ wrote index batches outcomes →
      outcome.failed ≤ batch.length) :
    (outcomes.map (·.failed)).sum ≤ (batches.map List.length).sum := by
  induction outcomes generalizing batches with
  | nil => exact Nat.zero_le _
  | cons outcome outcomes ih =>
    cases batches with
    | nil => cases hlength
    | cons batch batches =>
      have hhead := h batch outcome List.mem_cons_self
      have htail := ih (Nat.succ.inj hlength) fun b o hmem => h b o (List.mem_cons_of_mem _ hmem)
      rw [List.map_cons, List.sum_cons, List.map_cons, List.sum_cons]
      omega

end Slices

/-! ## The law of batches -/

/-- What a run that writes `records` sends, tells of it in its own journal, and ends with. -/
structure Batching {σ : Type} (ingest : Ingest) (index : String) (records : List Record)
    (run : Outcome σ Error IngestSummary) (own : List Entry) (slices : List (List Record)) :
    Prop where
  /-- There is one bulk request for each slice, and no other call. -/
  calls : run.calls = slices.map (.bulk index)
  cut : CutInto ingest.batchSize records slices
  /-- Nothing follows a request that failed. -/
  stops : SucceedsBeforeLast run.contacts
  /-- If no request failed, every record was sent once, and the summary and the log agree.  The sum
  of what counts as rejected is exact as long as it is a word. -/
  complete : (∀ a ∈ run.contacts, a.failed = false) →
    slices.length = batchCount ingest.batchSize records.length ∧ slices.flatten = records ∧
      own.filterMap Entry.batchFailed? = [] ∧
      ∃ outcomes sent, run.contacts = wrote index slices outcomes ∧
        outcomes.length = slices.length ∧ run.result = .ok sent ∧
        sent.batches = batchCount ingest.batchSize records.length ∧
        sent.submitted = records.length ∧
        sent.rejected = (outcomes.map (·.failed)).sum % countLimit ∧
        ((outcomes.map (·.failed)).sum < countLimit →
          sent.rejected = (outcomes.map (·.failed)).sum) ∧
        ((∀ batch outcome, .called (.bulk index batch) (.ok outcome) ∈ run.contacts →
          outcome.failed ≤ batch.length) →
            (outcomes.map (·.failed)).sum ≤ records.length ∧ sent.rejected ≤ records.length) ∧
        sent.progress = (List.range (batchCount ingest.batchSize records.length)).map (fun i =>
          min ((i + 1) * ingest.batchSize) records.length) ∧
        sent.progress.Pairwise (· < ·) ∧ own.filterMap Entry.inserted? = sent.progress
  /-- If request number `j`, from zero, failed, it was the last one, and one event tells how far the
  run had come. -/
  stopped : ∀ j batch e, run.contacts[j]? = some (.called (.bulk index batch) (.error e)) →
    slices.length = j + 1 ∧ run.result = .error (.service e) ∧
      own.filterMap Entry.inserted? =
        (List.range j).map (fun i => min ((i + 1) * ingest.batchSize) records.length) ∧
      own.filterMap Entry.batchFailed? =
        [.batchFailed (j + 1) (batchCount ingest.batchSize records.length) (j * ingest.batchSize)
          (Ingest.firstTitle batch) e.message]

section Reports

variable {ingest : Ingest} {index : String} {records : List Record} {journal : List Entry}
  {result : Except Error IngestSummary}

theorem inserted_of_insert (hsize : ingest.batchSize ≠ 0)
    (h : (ingest.insert index records).Admits journal result) :
    journal.filterMap Entry.inserted? = runningTotals 0 (writtenSizes (contacts journal)) := by
  obtain ⟨rest, rfl, hsend⟩ := insert_journal hsize h
  rw [writtenSizes_contacts]
  exact hsend.inserted

theorem batchFailed_of_insert (hsize : ingest.batchSize ≠ 0)
    (h : (ingest.insert index records).Admits journal result) :
    (journal.filterMap Entry.batchFailed? = [] ∧ ∃ summary, result = .ok summary) ∨
      ∃ batch e, (contacts journal).getLast? = some (.called (.bulk index batch) (.error e)) ∧
        result = .error (.service e) ∧
        journal.filterMap Entry.batchFailed? =
          [.batchFailed ((writtenSizes (contacts journal)).length + 1)
            (batchCount ingest.batchSize records.length) (writtenSizes (contacts journal)).sum
            (Ingest.firstTitle batch) e.message] := by
  obtain ⟨rest, rfl, hsend⟩ := insert_journal hsize h
  rw [writtenSizes_contacts]
  have hfailed := hsend.batchFailed
  simp only [IngestSummary.empty, Nat.zero_add] at hfailed
  exact hfailed

theorem writtenSizes_written (size : Nat) (outcomes : List BulkSummary) :
    writtenSizes (written size index records outcomes) =
      (List.range outcomes.length).map fun i => (piece size i records).length :=
  filterMap_written (fun _ _ => rfl) size outcomes

/-- A run without a failed request tells of the progress that is in its summary. -/
theorem complete_of_insert (hsize : ingest.batchSize ≠ 0)
    (h : (ingest.insert index records).Admits journal result)
    (hok : ∀ a ∈ contacts journal, a.failed = false) :
    ∃ outcomes, outcomes.length = batchCount ingest.batchSize records.length ∧
      contacts journal = written ingest.batchSize index records outcomes ∧
      result = .ok (insertSummary ingest.batchSize records outcomes) ∧
      journal.filterMap Entry.batchFailed? = [] ∧
      journal.filterMap Entry.inserted? =
        (insertSummary ingest.batchSize records outcomes).progress := by
  obtain ⟨outcomes, hlength, hcontacts, rfl⟩ := (insert_trace h).complete hsize hok
  refine ⟨outcomes, hlength, hcontacts, rfl, ?_, ?_⟩
  · rcases batchFailed_of_insert hsize h with ⟨hnone, -⟩ | ⟨_, _, _, hresult, _⟩
    · exact hnone
    · cases hresult
  · rw [inserted_of_insert hsize h, hcontacts, writtenSizes_written, runningTotals_pieces, hlength]
    rfl

/-- A run with a failed request tells of the progress up to there, and then of the failure. -/
theorem stopped_of_insert (hsize : ingest.batchSize ≠ 0)
    (h : (ingest.insert index records).Admits journal result) {j : Nat} {batch : List Record}
    {e : Search.Error}
    (hj : (contacts journal)[j]? = some (.called (.bulk index batch) (.error e))) :
    (contacts journal).length = j + 1 ∧ result = .error (.service e) ∧
      journal.filterMap Entry.inserted? =
        (List.range j).map (fun i => min ((i + 1) * ingest.batchSize) records.length) ∧
      journal.filterMap Entry.batchFailed? =
        [.batchFailed (j + 1) (batchCount ingest.batchSize records.length) (j * ingest.batchSize)
          (Ingest.firstTitle batch) e.message] := by
  obtain ⟨outcomes, rfl, hlt, hcontacts, rfl⟩ := (insert_trace h).stopped_at hj
  have hsizes : writtenSizes (contacts journal) = (List.range outcomes.length).map fun i =>
      (piece ingest.batchSize i records).length := by
    rw [hcontacts, writtenSizes, List.filterMap_append]
    exact (List.append_nil _).trans (writtenSizes_written ingest.batchSize outcomes)
  -- The batches before the failed one are all full.
  have hsum : (writtenSizes (contacts journal)).sum = outcomes.length * ingest.batchSize := by
    rw [hsizes, sum_length_pieces]
    exact Nat.min_eq_left (Nat.le_of_lt ((lt_batchCount_iff hsize _ _).mp hlt))
  refine ⟨?_, rfl, ?_, ?_⟩
  · rw [hcontacts, List.length_append, written, List.length_mapIdx, List.length_singleton]
  · rw [inserted_of_insert hsize h, hsizes, runningTotals_pieces]
  · rcases batchFailed_of_insert hsize h with ⟨-, summary, hresult⟩ |
      ⟨failing, e', hlast, hresult, htold⟩
    · cases hresult
    · rw [hcontacts, List.getLast?_concat] at hlast
      cases hlast
      rw [htold, hsum, hsizes, List.length_map, List.length_range]

end Reports

/-- A run sends its records in batches, for any service: consecutive slices of one size up to the
first request that fails; and it tells what it has sent.  No more records count as rejected than
were sent if the service keeps to its documents, as a client and an engine do. -/
theorem batching_of_insert {σ : Type} (service : Service σ) (source : Source σ) (ingest : Ingest)
    (index : String) (records : List Record) (s : σ) (hsize : 1 ≤ ingest.batchSize) :
    let run := (ingest.insert index records).run service source s
    let own := (ingest.insert index records).ownJournal service source s
    (∃ slices, Batching ingest index records run own slices) ∧ own.Sublist run.journal ∧
      (service.Moderate → ∀ batch outcome,
        .called (.bulk index batch) (.ok outcome) ∈ run.contacts →
          outcome.failed ≤ batch.length) ∧
      (∀ {τ : Type} (client : Client) (server : Http.Server τ),
        (client.service server).Moderate) ∧
      Engine.service.Moderate := by
  intro run own
  have hne : ingest.batchSize ≠ 0 := Nat.pos_iff_ne_zero.mp hsize
  have hadmits : (ingest.insert index records).Admits own run.result := admits_ownJournal ..
  have hcontacts : run.contacts = contacts own := contacts_ownJournal ..
  have htrace : InsertTrace ingest index records run.contacts run.result :=
    hcontacts ▸ insert_trace hadmits
  refine ⟨⟨(List.range run.contacts.length).map (piece ingest.batchSize · records), ?_⟩,
    ownJournal_sublist .., ?_, fun client server => Search.moderate_client client server,
    Search.moderate_engine⟩
  · constructor
    case calls =>
      rw [List.map_map]
      exact (filterMap_call?_contacts run.journal).symm.trans htrace.calls
    case cut => exact cutInto_pieces hne (htrace.length_le hne)
    case stops => exact htrace.succeedsBeforeLast
    case complete =>
      intro hok
      rw [hcontacts] at hok ⊢
      obtain ⟨outcomes, hlength, hwritten, hresult, hnone, htold⟩ :=
        complete_of_insert hne hadmits hok
      have hslices : (List.range (contacts own).length).map (piece ingest.batchSize · records) =
          batches ingest.batchSize records := by
        rw [hwritten, written, List.length_mapIdx, hlength, batches_eq_map_piece hne]
      have hwrote : contacts own = wrote index (batches ingest.batchSize records) outcomes := by
        rw [hwritten, wrote_batches hne _ _ (Nat.le_of_eq hlength)]
      have hcount := length_batches hne records
      rw [hslices]
      refine ⟨hcount, flatten_batches hne records, hnone, outcomes, _, hwrote,
        hlength.trans hcount.symm, hresult, rfl, rfl, rfl, Nat.mod_eq_of_lt, ?_, rfl,
        ends_increase hne _, htold⟩
      intro hmoderate
      rw [hwrote] at hmoderate
      rw [← sum_length_batches hne records]
      have hle := sum_failed_le (hlength.trans hcount.symm) hmoderate
      exact ⟨hle, Nat.le_trans (Nat.mod_le ..) hle⟩
    case stopped =>
      intro j batch e hj
      rw [hcontacts] at hj
      obtain ⟨hlength, hstopped⟩ := stopped_of_insert hne hadmits hj
      rw [List.length_map, List.length_range, hcontacts]
      exact ⟨hlength, hstopped⟩
  · intro hmoderate batch outcome hmem
    have hreplays : Replays service source s own run.state := replays_ownJournal ..
    rw [hcontacts] at hmem
    obtain ⟨state, hanswer⟩ := hreplays.contacts.exists_state hmem
    exact hmoderate index batch state outcome hanswer.symm

/-- Three records in batches of two, where the second request fails. -/
theorem batching_of_three_records :
    let ingest : Ingest := ⟨2, 0⟩
    let engine := { lateEngine with failBulkOnCall := some 2 }
    let run := (ingest.insert "movies" threeRecords).run Engine.service (.constant (.ok [])) engine
    let own := (ingest.insert "movies" threeRecords).ownJournal Engine.service (.constant (.ok []))
      engine
    1 ≤ ingest.batchSize ∧ run.calls.map Search.Call.kind = [.bulk, .bulk] ∧
      own.filterMap Entry.inserted? = [2] ∧
      own.filterMap Entry.batchFailed? =
        [.batchFailed 2 2 2 "-" "Bulk index error: connection reset by peer"] ∧
      ∃ slices, Batching ingest "movies" threeRecords run own slices := by
  intro ingest engine run own
  obtain ⟨hbatching, -⟩ := batching_of_insert Engine.service (.constant (.ok [])) ingest "movies"
    threeRecords engine (by decide)
  exact ⟨by decide, by decide +kernel, by decide +kernel, by decide +kernel, hbatching⟩

/-- An answer to the bulk request number `nth` that counts half of all words as rejected. -/
def overcount (nth : Nat) : Search.Fault :=
  ⟨.bulk, nth, .answer (.object [("failed", .nat 0x7FFFFFFFFFFFFFFF), ("reasons", .array [])])⟩

/-- No request fails, and still the summary does not have the sum of what the outcomes count: a word
cannot hold it. -/
theorem rejected_of_overcounted_records :
    let run := (Ingest.insert ⟨1, 0⟩ "movies" threeRecords).run Engine.service.withFaults
      (.constant (.ok [])) ⟨lateEngine, [overcount 1, overcount 2, overcount 3]⟩
    (∀ a ∈ run.contacts, a.failed = false) ∧
      run.contacts.filterMap Entry.rejected? =
        [0x7FFFFFFFFFFFFFFF, 0x7FFFFFFFFFFFFFFF, 0x7FFFFFFFFFFFFFFF] ∧
      run.result = .ok ⟨3, 3, 9223372036854775805, [1, 2, 3]⟩ ∧
      (9223372036854775805 : Nat) ≠ (run.contacts.filterMap Entry.rejected?).sum := by
  decide +kernel

end Reindex.Run
