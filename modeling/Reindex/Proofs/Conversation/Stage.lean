import Reindex.Proofs.Search.Place
import Reindex.Settings.Setup

/-!
# The stages of a load's conversation

What a load sends depends only on the replies so far.  A stage has at most one request, and the
reply to it leads to the next stage; a reply that is not acceptable leads to the end.  The stages
are defined on requests and replies alone, and each is then compared with the call that it stands
for.
-/

namespace Reindex

namespace Http.Reply

/-- Does the reply have the status code `n`? -/
def hasCode (n : Nat) : Reply → Bool
  | .dropped => false
  | .answered status _ _ => status.code = n

/-- Does the reply have a status code that means success? -/
def succeeds : Reply → Bool
  | .dropped => false
  | .answered status _ _ => status.isSuccess

/-- The body of a reply that came to its end; with some status codes there is none to come. -/
def wholeBody? : Reply → Option Bytes
  | .dropped => none
  | .answered status body complete =>
    if status.allowsBody then (if complete then some body else none) else some []

/-- The JSON value in the whole body of a reply that means success. -/
def json? (reply : Reply) : Option Json :=
  if reply.succeeds then reply.wholeBody?.bind fun body => (Json.parse body).toOption else none

/-- The records in the whole body of a reply that means success. -/
def records? (reply : Reply) : Option (List Record) :=
  if reply.succeeds then reply.wholeBody?.bind fun body => (Dataset.parse body).toOption else none

/-- The number of documents in the whole body of a reply that means success. -/
def count? (reply : Reply) : Option Nat :=
  reply.json?.bind fun value => (value.field? "count").bind Json.asNat?

end Http.Reply

namespace Setup

open Http (Reply Request)
open Search (Call conclude contentType indexSegment bulkLines)

/-- Where a load is in its conversation. -/
inductive Stage where
  /-- A ping, which so many others may follow. -/
  | pinging (left : Nat)
  | checking
  | deleting
  | creating
  | fetching (url : Url)
  | writing (batch : List Record) (rest : List (List Record))
  | counting
  | done
  | stopped
  deriving Repr

/-- The request about the index of the load, or about an operation on it. -/
def indexRequest (setup : Setup) (method : Http.Method) (operation : List String) (body : Bytes) :
    Request :=
  ⟨method, setup.client.base.descend (indexSegment setup.config.index.name :: operation),
    some contentType, body⟩

/-- What is sent in a stage. -/
def request? (setup : Setup) : Stage → Option Request
  | .pinging _ => some ⟨.head, setup.client.base.withoutFragment, some contentType, []⟩
  | .checking => some (setup.indexRequest .head [] [])
  | .deleting => some (setup.indexRequest .delete [] [])
  | .creating => some (setup.indexRequest .put [] setup.config.index.body.wireBytes)
  | .fetching url => some (Dataset.request url)
  | .writing batch _ =>
    some (setup.indexRequest .post ["_bulk"] (batch.flatMap (bulkLines setup.config.index.name)))
  | .counting => some (setup.indexRequest .get ["_count"] [])
  | .done | .stopped => none

/-- The stage in which the first of the batches is written. -/
def writingFrom : List (List Record) → Stage
  | [] => .counting
  | batch :: rest => .writing batch rest

/-- The stage after records came, or did not. -/
def withRecords (setup : Setup) : Option (List Record) → Stage
  | some records => writingFrom (batches setup.config.ingest.batchSize records)
  | none => .stopped

/-- The stage after the index was created.  A dataset in a file needs no request. -/
def withIndex (setup : Setup) (read : Files.Reader) : Stage :=
  match setup.dataset with
  | .web url => .fetching url
  | .file path => setup.withRecords (Dataset.ofFile path (read path)).toOption

/-- The stage after a ping was refused. -/
def afterRefusal : Nat → Stage
  | 0 => .stopped
  | left + 1 => .pinging left

/-- The stage that the reply to the request of a stage leads to. -/
def after (setup : Setup) (read : Files.Reader) : Stage → Reply → Stage
  | .pinging left, reply => if reply.succeeds then .checking else afterRefusal left
  | .checking, reply =>
    if reply.hasCode 200 then .deleting else if reply.hasCode 404 then .creating else .stopped
  | .deleting, reply => if reply.succeeds || reply.hasCode 404 then .creating else .stopped
  | .creating, reply => if reply.succeeds then setup.withIndex read else .stopped
  | .fetching _, reply => setup.withRecords reply.records?
  | .writing _ rest, reply => if reply.json?.isSome then writingFrom rest else .stopped
  | .counting, reply => if reply.count?.isSome then .done else .stopped
  | .done, _ => .done
  | .stopped, _ => .stopped

/-- The requests and replies of a conversation, from one stage to another. -/
def Converses (setup : Setup) (read : Files.Reader) : Stage → List (Request × Reply) → Stage → Prop
  | stage, [], final => final = stage
  | stage, (r, reply) :: rest, final =>
    setup.request? stage = some r ∧ setup.Converses read (setup.after read stage reply) rest final

variable {setup : Setup} {read : Files.Reader}

theorem converses_append {a b : List (Request × Reply)} {stage final : Stage} :
    setup.Converses read stage (a ++ b) final ↔
      ∃ middle, setup.Converses read stage a middle ∧ setup.Converses read middle b final := by
  induction a generalizing stage with
  | nil => simp only [List.nil_append, Converses, exists_eq_left]
  | cons trade rest ih => simp only [List.cons_append, Converses, ih, and_assoc, exists_and_left]

/-! ## What replies mean for calls -/

/-- What the client makes of a reply to a call's request. -/
def concluded (r : Request) (reply : Reply) (c : Call) : c.Result :=
  (conclude r.url (r.receive reply) c).1

theorem receive_answered (r : Request) (status : Http.Status) (body : Bytes) (complete : Bool) :
    r.receive (.answered status body complete) =
      .ok ⟨status,
        if r.method = .head then some []
        else (Reply.answered status body complete).wholeBody?⟩ := by
  -- A `HEAD` request gets no body, and some status codes leave none to the other methods.
  simp only [Request.receive, Reply.wholeBody?]
  by_cases hmethod : r.method = .head
  · simp only [hmethod, decide_true, Bool.true_or, if_true]
  · cases status.allowsBody with
    | true => simp [hmethod]
    | false => simp [hmethod]

theorem concluded_answered (r : Request) (status : Http.Status) (body : Bytes) (complete : Bool)
    (c : Call) :
    concluded r (.answered status body complete) c =
      (Search.concludeAnswer r.url ⟨status,
        if r.method = .head then some [] else (Reply.answered status body complete).wholeBody?⟩
        c).1 := by
  unfold concluded
  rw [receive_answered]
  rfl

theorem toOption_exists (r : Request) (reply : Reply) (n : String) :
    (concluded r reply (.exists n)).toOption =
      if reply.hasCode 200 then some true else if reply.hasCode 404 then some false else none := by
  cases reply with
  | dropped => rfl
  | answered status body complete =>
    rw [concluded_answered]
    change _ = if decide (status.code = 200) = true then some true
      else if decide (status.code = 404) = true then some false else none
    simp only [decide_eq_true_eq, Search.concludeAnswer]
    split
    · rfl
    · split <;> rfl

theorem toOption_delete (r : Request) (reply : Reply) (n : String) :
    (concluded r reply (.delete n)).toOption =
      if reply.succeeds || reply.hasCode 404 then some () else none := by
  cases reply with
  | dropped => rfl
  | answered status body complete =>
    rw [concluded_answered]
    change _ = if (status.isSuccess || decide (status.code = 404)) = true then some () else none
    simp only [Bool.or_eq_true, decide_eq_true_eq, Search.concludeAnswer]
    split <;> rfl

theorem toOption_create (r : Request) (reply : Reply) (n : String) (body : Json) :
    (concluded r reply (.create n body)).toOption = if reply.succeeds then some () else none := by
  cases reply with
  | dropped => rfl
  | answered status _ complete =>
    rw [concluded_answered]
    change _ = if status.isSuccess = true then some () else none
    simp only [Search.concludeAnswer]
    split <;> rfl

theorem toOption_responseJson (url : Url) (status : Http.Status) (body? : Option Bytes) :
    (Search.responseJson url ⟨status, body?⟩).toOption =
      body?.bind fun body => (Json.parse body).toOption := by
  unfold Search.responseJson
  cases body? with
  | none => rfl
  | some body =>
    rw [Option.map_some, Option.bind_some]
    cases Json.parse body with
    | ok value => rfl
    | error e => rfl

theorem toOption_bulk {r : Request} (hmethod : r.method ≠ .head) (reply : Reply) (n : String)
    (batch : List Record) :
    (concluded r reply (.bulk n batch)).toOption =
      reply.json?.map (Search.BulkSummary.ofResponse batch.length) := by
  cases reply with
  | dropped => rfl
  | answered status body complete =>
    rw [concluded_answered, if_neg hmethod]
    change _ = Option.map _ (if status.isSuccess = true then _ else none)
    rw [← toOption_responseJson r.url status]
    simp only [Search.concludeAnswer]
    split
    · -- The summary is made from whatever value the body holds.
      unfold Search.concludeBulk
      cases Search.responseJson r.url _ <;> rfl
    · rfl

theorem toOption_count {r : Request} (hmethod : r.method ≠ .head) (reply : Reply) (n : String) :
    (concluded r reply (.count n)).toOption = reply.count? := by
  cases reply with
  | dropped => rfl
  | answered status body complete =>
    rw [concluded_answered, if_neg hmethod]
    change _ = Option.bind (if status.isSuccess = true then _ else none) _
    rw [← toOption_responseJson r.url status]
    simp only [Search.concludeAnswer]
    split
    · unfold Search.concludeCount
      cases Search.responseJson r.url _ with
      | error e => rfl
      | ok value =>
        change Except.toOption _ = (value.field? "count").bind Json.asNat?
        dsimp only [bind, Except.bind]
        cases (value.field? "count").bind Json.asNat? <;> rfl
    · rfl

theorem toOption_ofAnswer (url : Url) (reply : Reply) :
    (Dataset.ofAnswer url ((Dataset.request url).receive reply)).1.toOption = reply.records? := by
  cases reply with
  | dropped => rfl
  | answered status body complete =>
    rw [receive_answered, if_neg (show (Dataset.request url).method ≠ .head from nofun)]
    change _ = if status.isSuccess = true then _ else none
    unfold Dataset.ofAnswer
    dsimp only
    split
    · cases (Reply.answered status body complete).wholeBody? with
      | none => rfl
      | some body =>
        change (Dataset.ofBody body).1.toOption = (Dataset.parse body).toOption
        unfold Dataset.ofBody
        cases Dataset.parse body <;> rfl
    · rfl

/-! ## Stages and calls -/

/-- The stage that the answer to a ping leads to, if `left` pings may follow. -/
def afterPing (left : Nat) : Option Bool → Stage
  | some true => .checking
  | _ => afterRefusal left

theorem afterPing_of_ne {answer : Call.Result .ping} (h : answer ≠ .ok true) (left : Nat) :
    afterPing left answer.toOption = afterRefusal left := by
  match answer with
  | .ok true => exact absurd rfl h
  | .ok false => rfl
  | .error _ => rfl

/-- The stage that the answer to a check leads to. -/
def afterCheck : Option Bool → Stage
  | some true => .deleting
  | some false => .creating
  | none => .stopped

theorem after_pinging (r : Request) (reply : Reply) (left : Nat) :
    setup.after read (.pinging left) reply =
      afterPing left (concluded r reply .ping).toOption := by
  cases reply with
  | dropped => rfl
  | answered status body complete =>
    rw [concluded_answered]
    change (if status.isSuccess = true then .checking else afterRefusal left) =
      afterPing left (some status.isSuccess)
    cases status.isSuccess <;> rfl

theorem after_checking (r : Request) (reply : Reply) (n : String) :
    setup.after read .checking reply = afterCheck (concluded r reply (.exists n)).toOption := by
  rw [toOption_exists, after]
  cases reply.hasCode 200
  · cases reply.hasCode 404 <;> rfl
  · rfl

theorem after_deleting (r : Request) (reply : Reply) (n : String) :
    setup.after read .deleting reply =
      if (concluded r reply (.delete n)).toOption.isSome then .creating else .stopped := by
  rw [toOption_delete, after]
  cases reply.succeeds || reply.hasCode 404 <;> rfl

theorem after_creating (r : Request) (reply : Reply) (n : String) (body : Json) :
    setup.after read .creating reply =
      if (concluded r reply (.create n body)).toOption.isSome then setup.withIndex read
      else .stopped := by
  rw [toOption_create, after]
  cases reply.succeeds <;> rfl

theorem after_writing {r : Request} (hmethod : r.method ≠ .head) (reply : Reply) (n : String)
    (batch : List Record) (rest : List (List Record)) :
    setup.after read (.writing batch rest) reply =
      if (concluded r reply (.bulk n batch)).toOption.isSome then writingFrom rest
      else .stopped := by
  rw [toOption_bulk hmethod, Option.isSome_map, after]

theorem after_counting {r : Request} (hmethod : r.method ≠ .head) (reply : Reply) (n : String) :
    setup.after read .counting reply =
      if (concluded r reply (.count n)).toOption.isSome then .done else .stopped := by
  rw [toOption_count hmethod, after]

end Setup

end Reindex
