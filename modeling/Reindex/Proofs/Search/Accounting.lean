import Reindex.Proofs.Engine.Calls
import Reindex.Proofs.Json.ValueTexts
import Reindex.Proofs.Keyed
import Reindex.Search.Client

/-!
# The items of a bulk response

Which items of the response to a bulk request have an error, said of the response alone, and what
the summary makes of them: how many it counts, and which of them it lists with their status and
reason.  Whatever the response holds, no more documents count as rejected than were sent.
-/

namespace Reindex

namespace Json

theorem asNat?_eq_some {value : Json} {n : Nat} : value.asNat? = some n ↔ value = nat n := by
  unfold nat
  cases value with
  | number number => cases number <;> simp [asNat?, Int.mem_toNat?]
  | null | bool | string | array | object => simp [asNat?]

theorem asString?_eq_some {value : Json} {s : String} :
    value.asString? = some s ↔ value = .string s := by
  cases value <;> simp [asString?]

end Json

namespace Search

/-! ## Items with an error -/

/-- The value of an object under its smallest name. -/
def FirstValue (members : Json.Members) (value : Json) : Prop :=
  ∃ name, (name, value) ∈ members ∧ ∀ entry ∈ members, name ≤ entry.1

/-- The item at a place of the response is an object whose first value has an error. -/
def FailsAt (body : Json) (place : Nat) (result error : Json) : Prop :=
  ∃ items members, body.field? "items" = some (.array items) ∧
    items[place]? = some (.object members) ∧ FirstValue members result ∧
    result.field? "error" = some error

/-- The places of the items with an error, in order.  There are none unless the response says that
there are errors. -/
structure ErrorPlaces (body : Json) (places : List Nat) : Prop where
  increasing : places.Pairwise (· < ·)
  mem_iff : ∀ place, place ∈ places ↔
    body.field? "errors" = some (.bool true) ∧ ∃ result error, FailsAt body place result error

/-- The members of each item are in the order of their names, as in all values that are read. -/
def ItemsOrdered (body : Json) : Prop :=
  ∀ items members, body.field? "items" = some (.array items) → .object members ∈ items →
    Keyed.Sorted members

theorem itemsOrdered_normal (written : Json) : ItemsOrdered written.normal := by
  intro items members hitems hmem
  cases written with
  | object pairs =>
    rw [Json.normal_object] at hitems
    have hentry := Keyed.mem_of_mem_ofPairs (Keyed.mem_of_get? hitems)
    obtain ⟨⟨name, value⟩, -, heq⟩ := List.mem_map.mp hentry
    obtain ⟨-, hvalue⟩ := Prod.mk.inj heq
    cases value with
    | array values =>
      rw [Json.normal_array] at hvalue
      obtain rfl := Json.array.inj hvalue
      obtain ⟨item, -, hitem⟩ := List.mem_map.mp hmem
      -- An item that is an object by now was one before.
      cases item with
      | object pairs =>
        rw [Json.normal_object] at hitem
        obtain rfl := Json.object.inj hitem
        exact Keyed.sorted_ofPairs _
      | array values =>
        rw [Json.normal_array] at hitem
        cases hitem
      | null | bool | number | string => cases hitem
    | object pairs =>
      rw [Json.normal_object] at hvalue
      cases hvalue
    | null | bool | number | string => cases hvalue
  | array values =>
    rw [Json.normal_array] at hitems
    cases hitems
  | null | bool | number | string => cases hitems

theorem itemsOrdered_of_parse {text : Bytes} {body : Json} (h : Json.parse text = .ok body) :
    ItemsOrdered body := by
  obtain ⟨_, _, _, -, ⟨written, -, rfl⟩, -⟩ :=
    Json.text_of_document (Json.readsOnly_value _ _) h
  exact itemsOrdered_normal written

namespace BulkSummary

theorem reportsErrors_iff {body : Json} :
    reportsErrors body = true ↔ body.field? "errors" = some (.bool true) := by
  unfold reportsErrors
  cases body.field? "errors" with
  | none => simp
  | some value => cases value <;> simp [Json.asBool?]

/-- The items of a response, where it has some. -/
theorem getElem?_responseItems {body : Json} {place : Nat} {item : Json} :
    (responseItems body)[place]? = some item ↔
      ∃ items, body.field? "items" = some (.array items) ∧ items[place]? = some item := by
  unfold responseItems
  cases body.field? "items" with
  | none => simp
  | some value => cases value <;> simp [Json.asArray?]

theorem firstValue_iff {members : Json.Members} (h : Keyed.Sorted members) {value : Json} :
    FirstValue members value ↔ itemResult? (.object members) = some value := by
  unfold FirstValue
  cases members with
  | nil => simp [itemResult?]
  | cons first rest =>
    obtain ⟨name, result⟩ := first
    obtain ⟨hfirst, -⟩ := List.pairwise_cons.mp h
    show _ ↔ some result = some value
    constructor
    · rintro ⟨other, hmem, hleast⟩
      rcases List.mem_cons.mp hmem with heq | hmem
      · cases heq
        rfl
      · -- A later name is larger than the first.
        have hle := hleast _ List.mem_cons_self
        exact absurd (hfirst _ hmem) (String.not_lt.mpr hle)
    · intro heq
      cases heq
      refine ⟨name, List.mem_cons_self, fun entry hentry => ?_⟩
      rcases List.mem_cons.mp hentry with rfl | hentry
      · exact String.le_refl _
      · exact String.not_lt.mp (String.lt_asymm (hfirst entry hentry))

/-- An item with an error, as the summary finds it. -/
theorem failsAt_iff {body : Json} (h : ItemsOrdered body) {place : Nat} {result error : Json} :
    FailsAt body place result error ↔ ∃ item, (responseItems body)[place]? = some item ∧
      itemResult? item = some result ∧ result.field? "error" = some error := by
  constructor
  · rintro ⟨items, members, hitems, hitem, hfirst, herror⟩
    have hsorted := h items members hitems (List.mem_of_getElem? hitem)
    exact ⟨_, getElem?_responseItems.mpr ⟨items, hitems, hitem⟩,
      (firstValue_iff hsorted).mp hfirst, herror⟩
  · rintro ⟨item, hitem, hresult, herror⟩
    obtain ⟨items, hitems, hitem⟩ := getElem?_responseItems.mp hitem
    cases item with
    | object members =>
      have hsorted := h items members hitems (List.mem_of_getElem? hitem)
      exact ⟨items, members, hitems, hitem, (firstValue_iff hsorted).mpr hresult, herror⟩
    | null | bool | number | string | array => cases hresult

/-! ## The rejections that are found -/

theorem itemRejection?_eq_some {place : Nat} {item : Json} {r : Rejection} :
    itemRejection? place item = some r ↔ ∃ result error, itemResult? item = some result ∧
      result.field? "error" = some error ∧ r = ⟨place, itemStatus result, errorReason error⟩ := by
  unfold itemRejection?
  simp only [Option.bind_eq_bind, Option.bind_eq_some_iff, Option.some.injEq, eq_comm (b := r)]
  grind

theorem mem_rejectionsOf {items : List Json} {r : Rejection} :
    r ∈ rejectionsOf items ↔
      ∃ item, items[r.position]? = some item ∧ itemRejection? r.position item = some r := by
  unfold rejectionsOf
  rw [List.mem_filterMap]
  constructor
  · rintro ⟨⟨item, place⟩, hmem, hitem⟩
    have hplace := List.mem_zipIdx_iff_getElem?.mp hmem
    obtain ⟨result, error, -, -, rfl⟩ := itemRejection?_eq_some.mp hitem
    exact ⟨item, hplace, hitem⟩
  · rintro ⟨item, hplace, hitem⟩
    exact ⟨(item, r.position), List.mem_zipIdx_iff_getElem?.mpr hplace, hitem⟩

/-- The rejections are found from front to back. -/
theorem positions_increase (items : List Json) :
    ((rejectionsOf items).map (·.position)).Pairwise (· < ·) := by
  have hindices : (items.zipIdx).Pairwise (fun a b => a.2 < b.2) := by
    rw [← List.pairwise_map, List.zipIdx_map_snd]
    exact List.pairwise_lt_range'
  rw [List.pairwise_map]
  refine hindices.filterMap _ fun a a' hlt r hr r' hr' => ?_
  obtain ⟨_, _, -, -, rfl⟩ := itemRejection?_eq_some.mp hr
  obtain ⟨_, _, -, -, rfl⟩ := itemRejection?_eq_some.mp hr'
  exact hlt

/-- The rejections that a response reports: none unless it says that there are errors. -/
def reported (body : Json) : List Rejection :=
  if reportsErrors body then rejectionsOf (responseItems body) else []

/-- The summary of a request of `total` documents of which these were rejected. -/
def ofRejections (total : Nat) (found : List Rejection) : BulkSummary :=
  ⟨total, total - min found.length total, min found.length total, found.take maxRejections⟩

theorem ofResponse_eq (total : Nat) (body : Json) :
    ofResponse total body = ofRejections total (reported body) := by
  unfold ofResponse reported
  split
  · rfl
  · unfold allSucceeded ofRejections
    rw [List.length_nil, Nat.zero_min, Nat.sub_zero, List.take_nil]

theorem mem_reported {body : Json} (h : ItemsOrdered body) {r : Rejection} :
    r ∈ reported body ↔ body.field? "errors" = some (.bool true) ∧
      ∃ result error, FailsAt body r.position result error ∧
        r = ⟨r.position, itemStatus result, errorReason error⟩ := by
  unfold reported
  split
  next herrors =>
    rw [mem_rejectionsOf, and_iff_right (reportsErrors_iff.mp herrors)]
    simp only [itemRejection?_eq_some, failsAt_iff h]
    grind
  next herrors =>
    rw [reportsErrors_iff] at herrors
    exact iff_of_false List.not_mem_nil fun h => herrors h.1

/-- The rejections stand for the items with an error, in order. -/
theorem errorPlaces_reported {body : Json} (h : ItemsOrdered body) :
    ErrorPlaces body ((reported body).map (·.position)) where
  increasing := by
    unfold reported
    split
    · exact positions_increase _
    · exact .nil
  mem_iff place := by
    simp only [List.mem_map, mem_reported h]
    constructor
    · rintro ⟨r, ⟨herrors, result, error, hfails, -⟩, rfl⟩
      exact ⟨herrors, result, error, hfails⟩
    · rintro ⟨herrors, result, error, hfails⟩
      exact ⟨⟨place, itemStatus result, errorReason error⟩,
        ⟨herrors, result, error, hfails, rfl⟩, rfl⟩

theorem failed_ofResponse_le (total : Nat) (body : Json) :
    (ofResponse total body).failed ≤ total := by
  rw [ofResponse_eq]
  exact Nat.min_le_right ..

end BulkSummary

/-! ## Single rejections -/

/-- A rejection reports the result of an item and the error in it: the status if it fits 16 bits,
else zero, and the reason if it is a text, else the whole error. -/
structure Reports (result error : Json) (r : Rejection) : Prop where
  status_eq : ∀ n < 65536, result.field? "status" = some (.nat n) → r.status = n
  status_zero : (∀ n < 65536, result.field? "status" ≠ some (.nat n)) → r.status = 0
  reason_eq : ∀ reason, error.field? "reason" = some (.string reason) → r.reason = reason
  reason_error : (∀ reason, error.field? "reason" ≠ some (.string reason)) →
    r.reason = error.wire

namespace BulkSummary

theorem itemStatus_eq_some {result : Json} {n : Nat} :
    ((result.field? "status").bind Json.asNat?).filter (· < 65536) = some n ↔
      n < 65536 ∧ result.field? "status" = some (.nat n) := by
  simp only [Option.filter_eq_some_iff, Option.bind_eq_some_iff, Json.asNat?_eq_some,
    decide_eq_true_eq, exists_eq_right, and_comm]

theorem errorReason_eq_some {error : Json} {reason : String} :
    (error.field? "reason").bind Json.asString? = some reason ↔
      error.field? "reason" = some (.string reason) := by
  simp only [Option.bind_eq_some_iff, Json.asString?_eq_some, exists_eq_right]

theorem reports_rejection (place : Nat) (result error : Json) :
    Reports result error ⟨place, itemStatus result, errorReason error⟩ where
  status_eq n hn hstatus := by
    show itemStatus result = n
    unfold itemStatus
    rw [itemStatus_eq_some.mpr ⟨hn, hstatus⟩, Option.getD_some]
  status_zero hnone := by
    show itemStatus result = 0
    unfold itemStatus
    have hstatus := Option.eq_none_iff_forall_ne_some.mpr fun n h =>
      hnone n (itemStatus_eq_some.mp h).1 (itemStatus_eq_some.mp h).2
    rw [hstatus, Option.getD_none]
  reason_eq reason hreason := by
    show errorReason error = reason
    unfold errorReason
    rw [errorReason_eq_some.mpr hreason, Option.getD_some]
  reason_error hnone := by
    show errorReason error = error.wire
    unfold errorReason
    have hreason := Option.eq_none_iff_forall_ne_some.mpr fun reason h =>
      hnone reason (errorReason_eq_some.mp h)
    rw [hreason, Option.getD_none]

end BulkSummary

/-! ## The accounts of a summary -/

/-- A summary of a request of `total` documents accounts for the items with an error: it counts them
up to the total, and it reports the first few of them in order. -/
structure Accounts (total : Nat) (body : Json) (places : List Nat) (summary : BulkSummary) :
    Prop where
  total_eq : summary.total = total
  failed_eq : summary.failed = min places.length total
  succeeded_add : summary.succeeded + summary.failed = total
  length_eq : summary.rejections.length = min places.length BulkSummary.maxRejections
  positions : summary.rejections.map (·.position) = places.take BulkSummary.maxRejections
  details : ∀ r ∈ summary.rejections, ∃ result error,
    FailsAt body r.position result error ∧ Reports result error r

namespace BulkSummary

theorem accounts_ofResponse {body : Json} (h : ItemsOrdered body) (total : Nat) :
    Accounts total body ((reported body).map (·.position)) (ofResponse total body) := by
  rw [ofResponse_eq, ofRejections]
  constructor
  case total_eq => rfl
  case failed_eq => rw [List.length_map]
  case succeeded_add => exact Nat.sub_add_cancel (Nat.min_le_right ..)
  case length_eq => rw [List.length_take, List.length_map, Nat.min_comm]
  case positions => rw [List.map_take]
  case details =>
    intro r hr
    obtain ⟨-, result, error, hfails, heq⟩ := (mem_reported h).mp (List.mem_of_mem_take hr)
    refine ⟨result, error, hfails, ?_⟩
    rw [heq]
    exact reports_rejection ..

/-- If the response says rightly whether an item has an error, looking at the items does not change
the summary. -/
theorem ofResponse_of_faithful {body : Json} (h : ItemsOrdered body)
    (hfaithful : body.field? "errors" = some (.bool true) ↔
      ∃ place result error, FailsAt body place result error) (total : Nat) :
    ofResponse total body = ofRejections total (rejectionsOf (responseItems body)) := by
  rw [ofResponse_eq]
  congr 1
  unfold reported
  by_cases herrors : reportsErrors body = true
  · rw [if_pos herrors]
  · rw [if_neg herrors]
    apply Eq.symm
    apply List.eq_nil_iff_forall_not_mem.mpr
    intro r hr
    obtain ⟨item, hitem, hrejection⟩ := mem_rejectionsOf.mp hr
    obtain ⟨result, error, hresult, herror, -⟩ := itemRejection?_eq_some.mp hrejection
    have hfails : FailsAt body r.position result error :=
      (failsAt_iff h).mpr ⟨item, hitem, hresult, herror⟩
    exact herrors (reportsErrors_iff.mpr (hfaithful.mpr ⟨_, result, error, hfails⟩))

/-- If documents count as rejected, a rejection is listed; and the other way round, if documents
were sent. -/
theorem failed_pos_iff {total : Nat} (htotal : 1 ≤ total) (body : Json) :
    0 < (ofResponse total body).failed ↔ (ofResponse total body).rejections ≠ [] := by
  rw [ofResponse_eq]
  show 0 < min (reported body).length total ↔ (reported body).take maxRejections ≠ []
  rw [← List.length_pos_iff, List.length_take, maxRejections]
  omega

end BulkSummary

/-! ## Services that keep to their documents -/

/-- No bulk request is answered with more rejections than it has documents. -/
def Service.Moderate {σ : Type} (service : Service σ) : Prop :=
  ∀ index records s summary, (service.perform (.bulk index records) s).answer = .ok summary →
    summary.failed ≤ records.length

/-- A client's answer to a bulk request with documents is read from a response. -/
theorem exists_response_of_bulk {τ : Type} {client : Client} {server : Http.Server τ}
    {index : String} {records : List Record} {x : Http.Exchange τ} {summary : BulkSummary}
    (hrecords : records ≠ [])
    (h : ((client.service server).perform (.bulk index records) x).answer = .ok summary) :
    ∃ text body, Json.parse text = .ok body ∧
      summary = BulkSummary.ofResponse records.length body := by
  cases records with
  | nil => exact absurd rfl hrecords
  | cons record more =>
    unfold Client.service at h
    dsimp only [Call.immediate?] at h
    split at h
    · cases h
    unfold conclude at h
    dsimp only at h
    split at h
    · cases h
    unfold concludeAnswer at h
    dsimp only at h
    split at h
    · unfold concludeBulk responseJson at h
      split at h
      · cases h
      next value hvalue =>
        split at hvalue
        next hparse =>
          cases hvalue
          obtain ⟨text, -, hparse⟩ := Option.map_eq_some_iff.mp hparse
          exact ⟨text, _, hparse, (Except.ok.inj h).symm⟩
        next => cases hvalue
    · cases h

theorem moderate_client {τ : Type} (client : Client) (server : Http.Server τ) :
    (client.service server).Moderate := by
  intro index records x summary h
  by_cases hrecords : records = []
  · subst hrecords
    cases h
    exact Nat.le_refl 0
  · obtain ⟨text, body, -, rfl⟩ := exists_response_of_bulk hrecords h
    exact BulkSummary.failed_ofResponse_le ..

theorem moderate_engine : Engine.service.Moderate := by
  intro index records e summary h
  change (e.perform (.bulk index records)).1 = .ok summary at h
  rw [Engine.bulk_eq] at h
  split at h
  · cases h
  · cases h
    exact Nat.min_le_right ..

end Search

end Reindex
