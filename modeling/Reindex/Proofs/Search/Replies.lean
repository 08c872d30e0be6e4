import Mathlib.Data.Bool.Count
import Mathlib.Data.List.Forall2
import Reindex.Proofs.Agreement
import Reindex.Proofs.Json.Wire
import Reindex.Search.Client
import Reindex.Search.Engine

/-!
# Replies that stand for answers

How a service over HTTP has to reply to a request if it is to stand for an engine that answers the
call itself: by a status, by a dropped connection, or by a JSON body.  What the client concludes
from such a reply agrees with the engine's answer.
-/

namespace Reindex.Search

open Http (Reply Request)

/-! ## Bodies -/

/-- An item of the answer to a bulk request: one result, which has an error exactly if the document
was rejected. -/
def ItemTells (rejected : Bool) (item : Json) : Prop :=
  ∃ action result, item = .object [(action, result)] ∧ (result.field? "error").isSome = rejected

/-- The answer to a bulk request: an item for each document, in order, and whether any was
rejected. -/
structure BulkTells (rejected : List Bool) (value : Json) : Prop where
  items : ∃ items, value.field? "items" = some (.array items) ∧
    List.Forall₂ ItemTells rejected items
  errors : value.field? "errors" = some (.bool (rejected.contains true))

theorem itemRejection?_of_tells {rejected : Bool} {item : Json} (h : ItemTells rejected item)
    (position : Nat) : (BulkSummary.itemRejection? position item).isSome = rejected := by
  obtain ⟨action, result, rfl, herror⟩ := h
  unfold BulkSummary.itemRejection?
  change ((result.field? "error").bind _).isSome = rejected
  rw [← herror]
  cases result.field? "error" <;> rfl

theorem length_rejectionsOf {rejected : List Bool} {items : List Json}
    (h : List.Forall₂ ItemTells rejected items) :
    (BulkSummary.rejectionsOf items).length = rejected.count true := by
  have hfrom : ∀ start, ((items.zipIdx start).filterMap fun entry =>
      BulkSummary.itemRejection? entry.2 entry.1).length = rejected.count true := by
    induction h with
    | nil => exact fun _ => rfl
    | @cons flag item flags items hitem _ ih =>
      intro start
      have hsome := itemRejection?_of_tells hitem start
      rw [List.zipIdx_cons, List.filterMap_cons]
      dsimp only
      cases hrejection : BulkSummary.itemRejection? start item with
      | none =>
        rw [hrejection] at hsome
        rw [ih, ← hsome]
        rfl
      | some rejection =>
        rw [hrejection] at hsome
        rw [List.length_cons, ih, ← hsome]
        exact List.count_cons_self.symm
  exact hfrom 0

/-- The summary counts the documents that the answer rejects. -/
theorem counts_ofResponse {rejected : List Bool} {value : Json} (h : BulkTells rejected value) :
    (BulkSummary.ofResponse rejected.length value).total = rejected.length ∧
      (BulkSummary.ofResponse rejected.length value).succeeded = rejected.count false ∧
      (BulkSummary.ofResponse rejected.length value).failed = rejected.count true := by
  obtain ⟨⟨items, hitems, htells⟩, herrors⟩ := h
  have hfound := length_rejectionsOf htells
  have hcount := List.count_true_add_count_false rejected
  have hreported : BulkSummary.responseItems value = items := by
    unfold BulkSummary.responseItems
    rw [hitems]
    rfl
  unfold BulkSummary.ofResponse BulkSummary.reportsErrors
  rw [herrors, hreported]
  cases hany : rejected.contains true with
  | true =>
    have hmin : min (BulkSummary.rejectionsOf items).length rejected.length =
        rejected.count true := by
      omega
    simp only [Option.bind_some, Json.asBool?, Option.getD_some, if_true, hmin]
    exact ⟨trivial, by omega, trivial⟩
  | false =>
    have hnone : rejected.count true = 0 := by
      rw [List.count_eq_zero, ← List.contains_iff_mem, hany]
      decide
    simp only [Option.bind_some, Json.asBool?, Option.getD_some, Bool.false_eq_true, if_false,
      BulkSummary.allSucceeded]
    exact ⟨trivial, by omega, hnone.symm⟩

/-! ## Replies -/

/-- A reply with a status, whatever its body. -/
def Answered (code : Nat) (reply : Reply) : Prop :=
  ∃ body complete, reply = .answered ⟨code⟩ body complete

/-- A successful reply whose whole body is a value of a kind. -/
def Holds (p : Json → Prop) (reply : Reply) : Prop :=
  ∃ body value, reply = .answered ⟨200⟩ body true ∧ Json.parse body = .ok value ∧ p value

/-- Which documents of a bulk request were rejected: the last ones, as many as the summary
counts. -/
def rejectedFlags (summary : BulkSummary) : List Bool :=
  List.replicate summary.succeeded false ++ List.replicate summary.failed true

theorem count_rejectedFlags (summary : BulkSummary) :
    (rejectedFlags summary).length = summary.succeeded + summary.failed ∧
      (rejectedFlags summary).count false = summary.succeeded ∧
      (rejectedFlags summary).count true = summary.failed := by
  unfold rejectedFlags
  simp [List.count_replicate]

/-- The replies that stand for an answer.  Where none does, a call fails without one. -/
def Call.Replied : (c : Call) → c.Result → Reply → Prop
  | .ping, .ok ready => Answered (if ready then 200 else 503)
  | .exists _, .ok there => Answered (if there then 200 else 404)
  | .delete _, .ok _ | .create _ _, .ok _ => Answered 200
  | .bulk _ _, .ok summary => Holds (BulkTells (rejectedFlags summary))
  | .count _, .ok n => Holds fun value => value.field? "count" = some (.nat n)
  | .create _ _, .error _ => Answered 500
  | .count _, .error _ => Answered 404
  | .ping, .error _ | .exists _, .error _ | .delete _, .error _ | .bulk _ _, .error _ =>
    (· = .dropped)

/-- A number that an answer holds can be written as a word. -/
def Call.Fits : (c : Call) → c.Result → Prop
  | .count _, .ok n => n ≤ Number.maxWord
  | _, _ => True

/-! ## Replies for answers -/

/-- The item of the answer to a bulk request that tells of a document. -/
def bulkItem (rejected : Bool) : Json :=
  .object [("index", .object <|
    if rejected then [("error", .string "mapper_parsing_exception"), ("status", .nat 400)]
    else [("status", .nat 201)])]

/-- The answer to a bulk request. -/
def bulkAnswer (rejected : List Bool) : Json :=
  .object [("errors", .bool (rejected.contains true)), ("items", .array (rejected.map bulkItem))]

/-- A reply that stands for an answer. -/
def replyOf : (c : Call) → c.Result → Reply
  | .ping, .ok ready => .answered ⟨if ready then 200 else 503⟩ [] true
  | .exists _, .ok there => .answered ⟨if there then 200 else 404⟩ [] true
  | .delete _, .ok _ | .create _ _, .ok _ => .answered ⟨200⟩ [] true
  | .bulk _ _, .ok summary => .answered ⟨200⟩ (bulkAnswer (rejectedFlags summary)).wireBytes true
  | .count _, .ok n => .answered ⟨200⟩ (Json.object [("count", .nat n)]).wireBytes true
  | .create _ _, .error _ => .answered ⟨500⟩ [] true
  | .count _, .error _ => .answered ⟨404⟩ [] true
  | .ping, .error _ | .exists _, .error _ | .delete _, .error _ | .bulk _ _, .error _ => .dropped

theorem fits_of_le {n : Nat} (h : n ≤ Number.maxWord) : Json.Fits n := by
  unfold Number.maxWord at h
  unfold Json.Fits
  omega

theorem portable_bulkItem (rejected : Bool) : Json.Portable 125 (bulkItem rejected) := by
  refine ⟨List.pairwise_singleton .., List.forall_mem_singleton.mpr ?_⟩
  cases rejected with
  | true =>
    have hstatus : Json.Fits 400 := fits_of_le (by decide)
    exact ⟨Keyed.sorted_pair (by decide),
      List.forall_mem_cons.mpr ⟨trivial, List.forall_mem_singleton.mpr hstatus⟩⟩
  | false =>
    have hstatus : Json.Fits 201 := fits_of_le (by decide)
    exact ⟨List.pairwise_singleton .., List.forall_mem_singleton.mpr hstatus⟩

theorem tells_bulkItem (rejected : Bool) : ItemTells rejected (bulkItem rejected) := by
  cases rejected with
  | true => exact ⟨_, _, rfl, rfl⟩
  | false => exact ⟨_, _, rfl, rfl⟩

theorem portable_bulkAnswer (rejected : List Bool) :
    Json.Portable Json.maxDepth (bulkAnswer rejected) := by
  have hitems : Json.Portable 126 (.array (rejected.map bulkItem)) := by
    intro item hitem
    obtain ⟨flag, -, rfl⟩ := List.mem_map.mp hitem
    exact portable_bulkItem flag
  exact ⟨Keyed.sorted_pair (by decide),
    List.forall_mem_cons.mpr ⟨trivial, List.forall_mem_singleton.mpr hitems⟩⟩

theorem tells_bulkAnswer (rejected : List Bool) : BulkTells rejected (bulkAnswer rejected) where
  items := by
    refine ⟨_, rfl, List.forall₂_map_right_iff.mpr ?_⟩
    exact List.forall₂_same.mpr fun b _ => tells_bulkItem b
  errors := rfl

theorem replied_replyOf {c : Call} {answer : c.Result} (h : c.Fits answer) :
    c.Replied answer (replyOf c answer) := by
  cases c with
  | ping | «exists» | delete =>
    cases answer with
    | error e => exact rfl
    | ok => exact ⟨_, _, rfl⟩
  | create =>
    cases answer with
    | error e => exact ⟨_, _, rfl⟩
    | ok => exact ⟨_, _, rfl⟩
  | bulk =>
    cases answer with
    | error e => exact rfl
    | ok summary =>
      exact ⟨_, _, rfl, Json.parse_wireBytes (portable_bulkAnswer _), tells_bulkAnswer _⟩
  | count =>
    cases answer with
    | error e => exact ⟨_, _, rfl⟩
    | ok n =>
      have hportable : Json.Portable Json.maxDepth (.object [("count", .nat n)]) :=
        ⟨List.pairwise_singleton .., List.forall_mem_singleton.mpr (fits_of_le h)⟩
      exact ⟨_, _, rfl, Json.parse_wireBytes hportable, rfl⟩

/-! ## What the client concludes -/

theorem receive_of_answered {r : Request} {code : Nat} {reply : Reply} (h : Answered code reply) :
    ∃ body?, r.receive reply = .ok ⟨⟨code⟩, body?⟩ := by
  obtain ⟨body, complete, rfl⟩ := h
  unfold Request.receive
  dsimp only
  split
  · exact ⟨_, rfl⟩
  · exact ⟨_, rfl⟩

theorem responseJson_of_holds {r : Request} {reply : Reply} {p : Json → Prop}
    (hmethod : r.method ≠ .head) (h : Holds p reply) (url : Url) :
    ∃ body value, r.receive reply = .ok ⟨⟨200⟩, some body⟩ ∧
      responseJson url ⟨⟨200⟩, some body⟩ = .ok value ∧ p value := by
  obtain ⟨body, value, rfl, hparse, hvalue⟩ := h
  refine ⟨body, value, ?_, ?_, hvalue⟩
  · unfold Request.receive
    dsimp only
    rw [if_neg (by simp [hmethod, Http.Status.allowsBody])]
    rfl
  · unfold responseJson
    rw [Option.map_some, hparse]

/-- The answer to a bulk request is about as many documents as were sent. -/
def Call.Counts : (c : Call) → c.Result → Prop
  | .bulk _ records, .ok summary =>
    summary.total = records.length ∧ summary.succeeded + summary.failed = records.length
  | _, _ => True

/-- An answer as services give them: an error says what the call was meant to do, and no document
of a bulk request is left out. -/
structure Call.Proper (c : Call) (answer : c.Result) : Prop where
  kind : ∀ e, answer = .error e → e.kind = c.errorKind
  counts : c.Counts answer

theorem Call.proper_ok {c : Call} {answer : c.Answer} (h : c.Counts (.ok answer)) :
    c.Proper (.ok answer) where
  kind _ heq := by cases heq
  counts := h

theorem Call.proper_error {c : Call} {e : Error} (h : e.kind = c.errorKind) :
    c.Proper (.error e) where
  kind _ heq := Except.error.inj heq ▸ h
  counts := by cases c <;> trivial

theorem agree_bulk {index : String} {records : List Record} {summary : BulkSummary} {reply : Reply}
    {r : Request} (hmethod : r.method ≠ .head)
    (h : (Call.bulk index records).Replied (.ok summary) reply)
    (hcounts : (Call.bulk index records).Counts (.ok summary)) (url : Url) :
    (Call.bulk index records).Agree (.ok summary)
      (conclude url (r.receive reply) (.bulk index records)).1 := by
  obtain ⟨body, value, hreceive, hjson, hvalue⟩ := responseJson_of_holds hmethod h url
  obtain ⟨htotal, hsum⟩ := hcounts
  have hconclude : (conclude url (.ok ⟨⟨200⟩, some body⟩) (.bulk index records)).1 =
      .ok (BulkSummary.ofResponse records.length value) := by
    change (concludeBulk index records.length url ⟨⟨200⟩, some body⟩).1 = _
    unfold concludeBulk
    rw [hjson]
  have hcount := counts_ofResponse hvalue
  obtain ⟨hlength, hfalse, htrue⟩ := count_rejectedFlags summary
  rw [hlength, hsum, hfalse, htrue] at hcount
  obtain ⟨hresponse, hsucceeded, hfailed⟩ := hcount
  rw [hreceive, hconclude]
  exact ⟨htotal.trans hresponse.symm, hsucceeded.symm, hfailed.symm⟩

theorem agree_count {index : String} {n : Nat} {reply : Reply} {r : Request}
    (hmethod : r.method ≠ .head) (h : (Call.count index).Replied (.ok n) reply) (url : Url) :
    (Call.count index).Agree (.ok n) (conclude url (r.receive reply) (.count index)).1 := by
  obtain ⟨body, value, hreceive, hjson, hvalue⟩ := responseJson_of_holds hmethod h url
  have hconclude : (conclude url (.ok ⟨⟨200⟩, some body⟩) (.count index)).1 = .ok n := by
    change concludeCount url ⟨⟨200⟩, some body⟩ = _
    unfold concludeCount
    rw [hjson]
    dsimp only [bind, Except.bind]
    rw [hvalue]
    rfl
  rw [hreceive, hconclude]
  exact rfl

/-- Where the engine fails, so does the client, with or without a reply. -/
theorem agree_error {c : Call} {e : Error} {reply : Reply} (h : c.Replied (.error e) reply)
    (hkind : e.kind = c.errorKind) (r : Request) (url : Url) :
    c.Agree (.error e) (conclude url (r.receive reply) c).1 := by
  cases c with
  | ping | «exists» | delete | bulk =>
    obtain rfl : reply = .dropped := h
    exact hkind
  | create | count =>
    obtain ⟨body?, hreceive⟩ := receive_of_answered (r := r) h
    rw [hreceive]
    exact hkind

theorem agree_ok {c : Call} {answer : c.Answer} {reply : Reply} {r : Request}
    (hmethod : r.method = c.method) (h : c.Replied (.ok answer) reply)
    (hcounts : c.Counts (.ok answer)) (url : Url) :
    c.Agree (.ok answer) (conclude url (r.receive reply) c).1 := by
  cases c with
  | ping | «exists» =>
    obtain ⟨body?, hreceive⟩ := receive_of_answered (r := r) h
    rw [hreceive]
    cases answer with
    | true => exact rfl
    | false => exact rfl
  | delete | create =>
    obtain ⟨body?, hreceive⟩ := receive_of_answered (r := r) h
    rw [hreceive]
    exact rfl
  | bulk =>
    have hpost : r.method ≠ .head := fun hhead => by cases hmethod.symm.trans hhead
    exact agree_bulk hpost h hcounts url
  | count =>
    have hget : r.method ≠ .head := fun hhead => by cases hmethod.symm.trans hhead
    exact agree_count hget h url

/-- What the client concludes from a reply that stands for an answer agrees with that answer. -/
theorem agree_conclude {c : Call} {answer : c.Result} {reply : Reply} {r : Request}
    (hmethod : r.method = c.method) (h : c.Replied answer reply) (hproper : c.Proper answer)
    (url : Url) : c.Agree answer (conclude url (r.receive reply) c).1 := by
  cases answer with
  | ok answer => exact agree_ok hmethod h hproper.counts url
  | error e => exact agree_error h (hproper.kind e rfl) r url

end Reindex.Search
