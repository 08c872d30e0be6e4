import Mathlib.Data.List.Sort
import Mathlib.Data.Set.Card
import Reindex.Proofs.Search.Accounting
import Reindex.Proofs.Search.Link
import Reindex.Proofs.Search.Replies

/-!
# Rejections of documents that were sent

A response may hold items beyond the documents of its request.  The summary cuts the number of
rejections to that of the documents, but it lists the rejections of all items.  Here is said when
the two still fit each other and the request.
-/

namespace Reindex.Search

open Http (Exchange Reply Request Response Server)

/-- The summary of a request of `sent` documents fits the request and the response: it lists no more
rejections than it counts, each of another document that was sent, and it counts the documents whose
item has an error. -/
structure Consistent (sent : Nat) (body : Json) (summary : BulkSummary) : Prop where
  length_le : summary.rejections.length ≤ summary.failed
  position_lt : ∀ r ∈ summary.rejections, r.position < sent
  distinct : (summary.rejections.map (·.position)).Nodup
  failed_eq : body.field? "errors" = some (.bool true) →
    summary.failed = {place | place < sent ∧ ∃ result error, FailsAt body place result error}.ncard

/-! ## Places below a bound -/

section Places

variable {places : List Nat}

/-- Of increasing numbers, those below a bound come first. -/
theorem filter_lt_append_filter_le (h : places.Pairwise (· < ·)) (bound : Nat) :
    places.filter (· < bound) ++ places.filter (bound ≤ ·) = places := by
  induction places with
  | nil => rfl
  | cons place rest ih =>
    obtain ⟨hplace, hrest⟩ := List.pairwise_cons.mp h
    by_cases hlt : place < bound
    · rw [List.filter_cons_of_pos (by simpa using hlt),
        List.filter_cons_of_neg (by simpa using hlt), List.cons_append, ih hrest]
    · -- All that follow are above the bound as well.
      have hnone : (place :: rest).filter (· < bound) = [] := by
        simp only [List.filter_eq_nil_iff, List.forall_mem_cons, decide_eq_true_eq]
        exact ⟨hlt, fun later hlater => by have := hplace later hlater; omega⟩
      have hall : (place :: rest).filter (bound ≤ ·) = place :: rest := by
        simp only [List.filter_eq_self, List.forall_mem_cons, decide_eq_true_eq]
        exact ⟨by omega, fun later hlater => by have := hplace later hlater; omega⟩
      rw [hnone, hall, List.nil_append]

theorem filter_lt_subset_range (bound : Nat) :
    places.filter (· < bound) ⊆ List.range bound := by
  intro place hplace
  simpa using List.of_mem_filter hplace

theorem length_filter_lt_le (h : places.Pairwise (· < ·)) (bound : Nat) :
    (places.filter (· < bound)).length ≤ bound := by
  have hsub := (h.filter (· < bound)).nodup.subperm (filter_lt_subset_range bound)
  simpa using hsub.length_le

theorem length_filter_lt_eq_iff (h : places.Pairwise (· < ·)) (bound : Nat) :
    (places.filter (· < bound)).length = bound ↔ ∀ place < bound, place ∈ places := by
  have hsubset : places.filter (· < bound) ⊆ List.range bound := filter_lt_subset_range bound
  have hsub := (h.filter (· < bound)).nodup.subperm hsubset
  constructor
  · intro hlength place hplace
    -- As many different numbers below the bound as there are must be all of them.
    have hperm := hsub.perm_of_length_le (by rw [List.length_range, hlength])
    exact List.mem_of_mem_filter (hperm.mem_iff.mpr (List.mem_range.mpr hplace))
  · intro hall
    have heq : places.filter (· < bound) = List.range bound := by
      refine (h.filter _).eq_of_mem_iff List.pairwise_lt_range fun place => ?_
      simp only [List.mem_filter, decide_eq_true_eq, List.mem_range]
      exact ⟨And.right, fun hlt => ⟨hall place hlt, hlt⟩⟩
    rw [heq, List.length_range]

/-- Counting up to `bound` and listing up to `cap` of increasing places leaves the places below the
bound alone if there are no others, or if those below the bound are all there and fill the list. -/
theorem cut_iff (h : places.Pairwise (· < ·)) (cap bound : Nat) :
    (min cap places.length ≤ min places.length bound ∧ (∀ place ∈ places.take cap, place < bound) ∧
        min places.length bound = (places.filter (· < bound)).length) ↔
      (∀ place ∈ places, place < bound) ∨ cap ≤ bound ∧ ∀ place < bound, place ∈ places := by
  have hsplit := filter_lt_append_filter_le h bound
  have hle := length_filter_lt_le h bound
  have hlength := congrArg List.length hsplit
  rw [List.length_append] at hlength
  constructor
  · rintro ⟨hlisted, -, hcounted⟩
    by_cases hall : ∀ place ∈ places, place < bound
    · exact .inl hall
    · have hlt := List.length_filter_lt_length_iff_exists (p := (· < bound)) (l := places)
      simp only [decide_eq_true_eq] at hlt
      have hbeyond : (places.filter (· < bound)).length < places.length := by
        rw [hlt]
        simpa using hall
      exact .inr ⟨by omega, (length_filter_lt_eq_iff h bound).mp (by omega)⟩
  · rintro (hall | ⟨hcap, hfull⟩)
    · have hself : places.filter (· < bound) = places := by
        simpa only [List.filter_eq_self, decide_eq_true_eq] using hall
      rw [hself] at hle ⊢
      exact ⟨by omega, fun place hplace => hall place (List.mem_of_mem_take hplace), by omega⟩
    · have hbound := (length_filter_lt_eq_iff h bound).mpr hfull
      refine ⟨by omega, fun place hplace => ?_, by omega⟩
      -- The list ends before the places beyond the bound begin.
      rw [← hsplit, List.take_append_of_le_length (by omega)] at hplace
      simpa using List.of_mem_filter (List.mem_of_mem_take hplace)

end Places

/-! ## Summaries of responses -/

namespace ErrorPlaces

variable {body : Json} {places places' : List Nat}

theorem unique (h : ErrorPlaces body places) (h' : ErrorPlaces body places') : places = places' :=
  h.increasing.eq_of_mem_iff h'.increasing fun place =>
    (h.mem_iff place).trans (h'.mem_iff place).symm

theorem ncard_eq (h : ErrorPlaces body places) (herrors : body.field? "errors" = some (.bool true))
    (sent : Nat) :
    {place | place < sent ∧ ∃ result error, FailsAt body place result error}.ncard =
      (places.filter (· < sent)).length := by
  have hset : {place | place < sent ∧ ∃ result error, FailsAt body place result error} =
      (places.filter (· < sent)).toFinset := by
    ext place
    simp only [Set.mem_ofPred_eq, List.coe_toFinset, List.mem_filter, decide_eq_true_eq, h.mem_iff,
      herrors, true_and, and_comm]
  rw [hset, Set.ncard_coe_finset, List.toFinset_card_of_nodup (h.increasing.filter _).nodup]

end ErrorPlaces

theorem positions_ofResponse {body : Json} (h : ItemsOrdered body) {places : List Nat}
    (hplaces : ErrorPlaces body places) (total : Nat) :
    (BulkSummary.ofResponse total body).failed = min places.length total ∧
      (BulkSummary.ofResponse total body).rejections.map (·.position) =
        places.take BulkSummary.maxRejections := by
  obtain rfl := hplaces.unique (BulkSummary.errorPlaces_reported h)
  have haccounts := BulkSummary.accounts_ofResponse h total
  exact ⟨haccounts.failed_eq, haccounts.positions⟩

theorem consistent_ofResponse_iff {body : Json} (h : ItemsOrdered body) {places : List Nat}
    (hplaces : ErrorPlaces body places) (sent : Nat) :
    Consistent sent body (BulkSummary.ofResponse sent body) ↔
      (∀ place ∈ places, place < sent) ∨
        BulkSummary.maxRejections ≤ sent ∧ ∀ place < sent, place ∈ places := by
  obtain ⟨hfailed, hpositions⟩ := positions_ofResponse h hplaces sent
  have hlength : (BulkSummary.ofResponse sent body).rejections.length =
      min BulkSummary.maxRejections places.length := by
    rw [← List.length_map (·.position), hpositions, List.length_take]
  have hdistinct : ((BulkSummary.ofResponse sent body).rejections.map (·.position)).Nodup := by
    rw [hpositions]
    exact (hplaces.increasing.take).nodup
  have hlisted : (∀ r ∈ (BulkSummary.ofResponse sent body).rejections, r.position < sent) ↔
      ∀ place ∈ places.take BulkSummary.maxRejections, place < sent := by
    rw [← hpositions, List.forall_mem_map]
  by_cases herrors : body.field? "errors" = some (.bool true)
  · rw [← cut_iff hplaces.increasing, ← hlisted, ← hplaces.ncard_eq herrors, ← hfailed, ← hlength]
    constructor
    · intro hconsistent
      exact ⟨hconsistent.length_le, hconsistent.position_lt, hconsistent.failed_eq herrors⟩
    · rintro ⟨hle, hlt, heq⟩
      exact ⟨hle, hlt, hdistinct, fun _ => heq⟩
  · -- Without a word about errors nothing is counted and nothing is listed.
    have hnone : places = [] := List.eq_nil_iff_forall_not_mem.mpr fun place hplace =>
      herrors ((hplaces.mem_iff place).mp hplace).1
    subst hnone
    refine iff_of_true ⟨?_, ?_, hdistinct, fun h => absurd h herrors⟩ (.inl (by simp))
    · rw [hlength, List.length_nil, Nat.min_zero]
      exact Nat.zero_le _
    · rw [hlisted, List.take_nil]
      simp

/-! ## Answers of a client -/

section Client

variable {τ : Type} {client : Client} {server : Server τ} {x : Exchange τ} {index : String}
  {records : List Record} {request : Request} {response : Response} {text : Bytes} {body : Json}

/-- The whole body of a successful answer, if it is a value, is what a bulk request results in. -/
theorem bulk_answer (hrecords : records ≠ [])
    (hrequest : client.request (.bulk index records) = .ok request)
    (hsend : (x.send server request).1 = .ok response) (hstatus : response.status.isSuccess = true)
    (htext : response.body? = some text) (hbody : Json.parse text = .ok body) :
    ((client.service server).perform (.bulk index records) x).answer =
      .ok (BulkSummary.ofResponse records.length body) := by
  have himmediate : (Call.bulk index records).immediate? = none := by
    cases records with
    | nil => exact absurd rfl hrecords
    | cons => rfl
  have hjson : responseJson request.url response = .ok body := by
    unfold responseJson
    rw [htext, Option.map_some, hbody]
  unfold Client.service
  dsimp only
  rw [himmediate, hrequest]
  dsimp only
  rw [hsend]
  show (if response.status.isSuccess then concludeBulk index records.length request.url response
    else _).1 = _
  rw [if_pos hstatus]
  unfold concludeBulk
  rw [hjson]

end Client

/-- What a client makes of the response to a bulk request is consistent exactly if no item beyond
the documents that were sent has an error, or if all documents that were sent have one and fill the
list.  The positions are different in any case. -/
theorem bulk_consistent_iff {τ : Type} (client : Client) (server : Server τ) (x : Exchange τ)
    (index : String) (records : List Record) (request : Request) (response : Response)
    (text : Bytes) (body : Json) (hrecords : records ≠ [])
    (hrequest : client.request (.bulk index records) = .ok request)
    (hsend : (x.send server request).1 = .ok response) (hstatus : response.status.isSuccess = true)
    (htext : response.body? = some text) (hbody : Json.parse text = .ok body) :
    ∃ summary places,
      ((client.service server).perform (.bulk index records) x).answer = .ok summary ∧
      ErrorPlaces body places ∧ summary.total = records.length ∧
      (summary.rejections.map (·.position)).Nodup ∧
      (Consistent records.length body summary ↔
        (∀ place ∈ places, place < records.length) ∨
          BulkSummary.maxRejections ≤ records.length ∧
            ∀ place < records.length, place ∈ places) := by
  have hordered := itemsOrdered_of_parse hbody
  have hplaces := BulkSummary.errorPlaces_reported hordered
  refine ⟨_, _, bulk_answer hrecords hrequest hsend hstatus htext hbody, hplaces, ?_, ?_,
    consistent_ofResponse_iff hordered hplaces records.length⟩
  · rw [BulkSummary.ofResponse_eq]
    rfl
  · rw [(positions_ofResponse hordered hplaces records.length).2]
    exact (hplaces.increasing.take).nodup

/-! ## A response to requests of one and of two documents -/

/-- What a server answers to a bulk request if it rejects the second of two documents. -/
def secondRejected : Json := bulkAnswer [false, true]

theorem parse_secondRejected : Json.parse secondRejected.wireBytes = .ok secondRejected :=
  Json.parse_wireBytes (portable_bulkAnswer _)

/-- A server whose first reply is that answer. -/
def afterSecondRejected : Exchange (List Reply) :=
  ⟨[.answered ⟨200⟩ secondRejected.wireBytes true], []⟩

theorem request_bulk_movies (records : List Record) :
    localClient.request (.bulk "movies" records) =
      .ok (localClient.callRequest (.bulk "movies" records)) := by
  have hpath : localClient.base.path = .segments (["es"] ++ [""]) := rfl
  refine Client.request_eq hpath fun index hindex => ?_
  cases hindex
  exact ⟨by decide, by decide, by decide⟩

theorem send_bulk_movies (records : List Record) :
    (afterSecondRejected.send (.scripted "localhost:9200")
        (localClient.callRequest (.bulk "movies" records))).1 =
      .ok ⟨⟨200⟩, some secondRejected.wireBytes⟩ := by
  have hlinked := Client.linked_of_connect connect_localClient (by decide) serves_localClient
  obtain ⟨hscheme, hauthority⟩ := localClient.place_scheme (.bulk "movies" records)
  obtain ⟨hhttp, hserves⟩ := hlinked.reaches hscheme hauthority
  rw [Http.send_eq (r := localClient.callRequest (.bulk "movies" records)) hhttp hserves]
  rfl

theorem bulk_consistent_two_documents :
    let records : List Record := [⟨[]⟩, ⟨[]⟩]
    ∃ summary,
      ((localClient.service (.scripted "localhost:9200")).perform (.bulk "movies" records)
        afterSecondRejected).answer = .ok summary ∧
      Consistent 2 secondRejected summary := by
  intro records
  obtain ⟨summary, places, hanswer, hplaces, -, -, hconsistent⟩ :=
    bulk_consistent_iff localClient (.scripted "localhost:9200") afterSecondRejected "movies"
      records _ _ _ secondRejected (List.cons_ne_nil _ _) (request_bulk_movies records)
      (send_bulk_movies records) rfl rfl parse_secondRejected
  refine ⟨summary, hanswer, hconsistent.mpr (.inl ?_)⟩
  obtain rfl := hplaces.unique
    (BulkSummary.errorPlaces_reported (itemsOrdered_of_parse parse_secondRejected))
  decide +kernel

/-- The same answer to a request of one document: its item has no error, but one rejection is
counted and listed, at a place where no document was sent. -/
theorem bulk_inconsistent_one_document :
    let records : List Record := [⟨[]⟩]
    ∃ summary,
      ((localClient.service (.scripted "localhost:9200")).perform (.bulk "movies" records)
        afterSecondRejected).answer = .ok summary ∧
      summary.total = 1 ∧ summary.failed = 1 ∧ summary.rejections.map (·.position) = [1] ∧
      ¬Consistent 1 secondRejected summary := by
  intro records
  have hne : records ≠ [] := List.cons_ne_nil _ _
  have hanswer := bulk_answer hne (request_bulk_movies records) (send_bulk_movies records) rfl rfl
    parse_secondRejected
  have hpositions :
      (BulkSummary.ofResponse 1 secondRejected).rejections.map (·.position) = [1] := by
    decide +kernel
  refine ⟨BulkSummary.ofResponse 1 secondRejected, hanswer, by decide +kernel, by decide +kernel,
    hpositions, fun h => ?_⟩
  have hlt := h.position_lt
  rw [← List.forall_mem_map (f := Rejection.position) (P := (· < 1))] at hlt
  exact absurd (hlt 1 (hpositions ▸ List.mem_singleton_self 1)) (Nat.lt_irrefl 1)

end Reindex.Search
