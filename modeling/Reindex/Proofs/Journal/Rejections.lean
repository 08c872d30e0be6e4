import Reindex.Proofs.Search.Accounting
import Reindex.Proofs.Trace.Ingest

/-!
# Rejections and what is told of them

What a load tells in its log of the rejections that the summaries of its bulk requests count, and
what these summaries make of any response.
-/

namespace Reindex

/-! ## What a load tells of rejections -/

namespace Run

open Search (BulkSummary Client Rejection)
open Dataset (Source)
open Procedure

section Loop

variable {ingest : Ingest} {index : String} {total : Nat} {pending : List (List Record)}
  {journal : List Entry} {sent : IngestSummary} {result : Except Error IngestSummary}
  {number rejected : Nat} {reason : String}

theorem eq_of_mem_rejectionNotes {n : Nat} {outcome : BulkSummary}
    (h : .logged (.batchRejections number rejected reason) ∈ rejectionNotes n outcome) :
    outcome.hasFailures = true ∧ rejected = outcome.failed ∧
      reason = Ingest.firstReason outcome := by
  unfold rejectionNotes at h
  split at h
  next hfailures =>
    cases List.mem_singleton.mp h
    exact ⟨hfailures, rfl, rfl⟩
  next => cases h

/-- Each event about rejections comes from a request that was answered with them. -/
theorem SendJournal.of_batchRejections
    (h : SendJournal ingest index total pending sent journal result)
    (hmem : .logged (.batchRejections number rejected reason) ∈ journal) :
    ∃ batch ∈ pending, ∃ outcome, .called (.bulk index batch) (.ok outcome) ∈ journal ∧
      outcome.hasFailures = true ∧ rejected = outcome.failed ∧
      reason = Ingest.firstReason outcome := by
  induction h with
  | finished => cases hmem
  | stopped batch rest sent e => simp at hmem
  | @written batch rest sent outcome later result hlater ih =>
    have hcases : .logged (.batchRejections number rejected reason) ∈
        rejectionNotes (sent.batches + 1) outcome ∨
          .logged (.batchRejections number rejected reason) ∈ later := by
      simpa [Ingest.pauseBefore] using hmem
    rcases hcases with hnotes | hmem
    · exact ⟨batch, List.mem_cons_self, outcome, List.mem_cons_self,
        eq_of_mem_rejectionNotes hnotes⟩
    · obtain ⟨failing, hpending, answer, hcalled, htold⟩ := ih hmem
      exact ⟨failing, List.mem_cons_of_mem _ hpending, answer, by simp [hcalled], htold⟩

theorem batchRejections_of_insert {records : List Record}
    (h : (ingest.insert index records).Admits journal result)
    (hmem : .logged (.batchRejections number rejected reason) ∈ journal) :
    ∃ batch ∈ batches ingest.batchSize records, ∃ outcome,
      .called (.bulk index batch) (.ok outcome) ∈ journal ∧ outcome.hasFailures = true ∧
      rejected = outcome.failed ∧ reason = Ingest.firstReason outcome := by
  by_cases hsize : ingest.batchSize = 0
  · obtain ⟨rfl, -⟩ := insert_pointless hsize h
    cases hmem
  · obtain ⟨rest, rfl, hsend⟩ := insert_journal hsize h
    have hrest : .logged (.batchRejections number rejected reason) ∈ rest := by simpa using hmem
    obtain ⟨batch, hbatch, outcome, hcalled, htold⟩ := hsend.of_batchRejections hrest
    exact ⟨batch, hbatch, outcome, List.mem_cons_of_mem _ hcalled, htold⟩

end Loop

/-- Every event about rejections tells of a bulk request: how many rejections its answer counts, and
the reason of the first that it lists. -/
def TellsReasons (index : String) (journal : List Entry) : Prop :=
  ∀ number rejected reason, .logged (.batchRejections number rejected reason) ∈ journal →
    ∃ batch summary first more, .called (.bulk index batch) (.ok summary) ∈ journal ∧
      summary.failed = rejected ∧ summary.rejections = first :: more ∧ first.reason = reason

/-- A load that writes through a client always has a reason to tell. -/
theorem tellsReasons_of_client {τ : Type} (client : Client) (server : Http.Server τ)
    (source : Source (Http.Exchange τ)) (ingest : Ingest) (index : String) (records : List Record)
    (x : Http.Exchange τ) :
    TellsReasons index
      ((ingest.insert index records).ownJournal (client.service server) source x) := by
  intro number rejected reason hmem
  obtain ⟨batch, hbatch, summary, hcalled, hfailures, rfl, rfl⟩ :=
    batchRejections_of_insert (admits_ownJournal ..) hmem
  obtain ⟨state, hanswer⟩ := (replays_ownJournal (ingest.insert index records) x).exists_state
    hcalled
  have hne : batch ≠ [] := ne_nil_of_mem_batches hbatch
  obtain ⟨text, body, -, rfl⟩ := Search.exists_response_of_bulk hne hanswer.symm
  have hlisted := (BulkSummary.failed_pos_iff (List.length_pos_iff.mpr hne) body).mp
    (of_decide_eq_true hfailures)
  obtain ⟨first, more, hrejections⟩ := List.exists_cons_of_ne_nil hlisted
  refine ⟨batch, _, first, more, hcalled, rfl, hrejections, ?_⟩
  rw [Ingest.firstReason, hrejections]
  rfl

end Run

/-! ## The law of rejections -/

namespace Search

open Run (Ingest)

/-- The summary of any response accounts for the items that have an error, and looking at the items
changes nothing if the response says rightly whether there are such items.  If documents were sent,
some count as rejected exactly if some are listed, so a load that writes through a client always has
a reason to tell. -/
theorem accounts_of_response (total : Nat) (body : Json) (hordered : ItemsOrdered body) :
    let summary := BulkSummary.ofResponse total body
    (∃ places, ErrorPlaces body places ∧ Accounts total body places summary) ∧
      ((body.field? "errors" = some (.bool true) ↔
          ∃ place result error, FailsAt body place result error) →
        summary = BulkSummary.ofRejections total
          (BulkSummary.rejectionsOf (BulkSummary.responseItems body))) ∧
      (1 ≤ total → (0 < summary.failed ↔ summary.rejections ≠ [])) ∧
      ∀ {τ : Type} (client : Client) (server : Http.Server τ)
        (source : Dataset.Source (Http.Exchange τ)) (ingest : Ingest) (index : String)
        (records : List Record) (x : Http.Exchange τ),
        Run.TellsReasons index
          ((ingest.insert index records).ownJournal (client.service server) source x) := by
  intro summary
  refine ⟨⟨_, BulkSummary.errorPlaces_reported hordered,
    BulkSummary.accounts_ofResponse hordered total⟩, ?_, ?_, ?_⟩
  · intro hfaithful
    exact BulkSummary.ofResponse_of_faithful hordered hfaithful total
  · intro htotal
    exact BulkSummary.failed_pos_iff htotal body
  · intro τ client server source ingest index records x
    exact Run.tellsReasons_of_client client server source ingest index records x

/-- An answer with items of every kind: one that was written, one with a reason, one with a status
that does not fit and an error that is a text, and one that is no object. -/
def mixedAnswer : Json :=
  (Json.object [("errors", .bool true), ("items", .array
    [.object [("index", .object [("status", .nat 201)])],
      .object [("index", .object [("status", .nat 400),
        ("error", .object [("reason", .string "bad date")])])],
      .object [("index", .object [("status", .nat 65937), ("error", .string "lost")])],
      .nat 7])]).normal

theorem accounts_of_mixed_answer :
    let summary := BulkSummary.ofResponse 1 mixedAnswer
    ItemsOrdered mixedAnswer ∧
      summary = ⟨1, 0, 1, [⟨1, 400, "bad date"⟩, ⟨2, 0, "\"lost\""⟩]⟩ ∧
      ∃ places, ErrorPlaces mixedAnswer places ∧ Accounts 1 mixedAnswer places summary := by
  intro summary
  have hordered : ItemsOrdered mixedAnswer := itemsOrdered_normal _
  exact ⟨hordered, by decide +kernel, (accounts_of_response 1 mixedAnswer hordered).1⟩

end Search

end Reindex
