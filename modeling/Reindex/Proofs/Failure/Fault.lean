import Reindex.Proofs.Conversation.Stage
import Reindex.Proofs.Procedure
import Reindex.Proofs.Results

/-!
# What a reply means for a call

The reply to a call's request decides whether the call fails, and with which kind of error.  A
request that does not reach the server fails like one whose connection is closed.
-/

namespace Reindex.Search

open Http (Exchange Reply Request Server)
open Run (Entry Replays)
open Dataset (Source)
open Setup (concluded)

/-- The kind of error that a reply to a call's request means: its status is refused, or it is
accepted and what comes with it cannot be read.  A ping fails only if there is no answer. -/
def Call.fault? (c : Call) (reply : Reply) : Option ErrorKind :=
  match c with
  | .ping => if reply = .dropped then some .connection else none
  | .exists _ => if reply.hasCode 200 || reply.hasCode 404 then none else some .indexExists
  | .delete _ => if reply.succeeds || reply.hasCode 404 then none else some .indexDeletion
  | .create _ _ => if reply.succeeds then none else some .indexCreation
  | .bulk _ _ =>
    if !reply.succeeds then some .bulkIndex
    else if reply.json?.isSome then none else some .parse
  | .count _ =>
    if !reply.succeeds then some .query
    else if reply.count?.isSome then none else some .parse

/-- The kind of error that an answer is. -/
def errorKind? {α : Type} : Except Error α → Option ErrorKind
  | .ok _ => none
  | .error e => some e.kind

theorem errorKind?_eq {α : Type} {answer : Except Error α} {accepted : Bool} {kind : ErrorKind}
    (haccepted : answer.toOption.isSome = accepted)
    (hkind : ∀ e, answer = .error e → e.kind = kind) :
    errorKind? answer = if accepted then none else some kind := by
  subst haccepted
  cases answer with
  | ok a => rfl
  | error e => exact congrArg some (hkind e rfl)

/-- Is the body of an accepted answer read? -/
def Call.readsBody : Call → Bool
  | .bulk _ _ | .count _ => true
  | _ => false

section Kinds

variable {url : Url} {r : Http.Response} {e : Error}

theorem responseJson_kind (h : responseJson url r = .error e) : e.kind = .parse := by
  unfold responseJson at h
  split at h
  · cases h
  · cases h
    rfl

theorem concludeBulk_kind {n : String} {total : Nat}
    (h : (concludeBulk n total url r).1 = .error e) : e.kind = .parse := by
  unfold concludeBulk at h
  cases hjson : responseJson url r with
  | error e' =>
    rw [hjson] at h
    obtain rfl := Except.error.inj h
    exact responseJson_kind hjson
  | ok value =>
    rw [hjson] at h
    cases h

theorem concludeCount_kind (h : concludeCount url r = .error e) : e.kind = .parse := by
  unfold concludeCount at h
  cases hjson : responseJson url r with
  | error e' =>
    rw [hjson] at h
    obtain rfl := Except.error.inj h
    exact responseJson_kind hjson
  | ok value =>
    rw [hjson] at h
    dsimp only [bind, Except.bind] at h
    -- The value has a count, or it is shown in the error.
    split at h
    · cases h
    · cases h
      rfl

/-- An accepted answer fails only because of its body, and any other with the call's own kind of
error. -/
theorem concludeAnswer_kind {c : Call} (h : (concludeAnswer url r c).1 = .error e) :
    e.kind = if c.readsBody && r.status.isSuccess then .parse else c.errorKind := by
  unfold concludeAnswer at h
  cases c with
  | ping => cases h
  | «exists» n =>
    dsimp only at h
    split at h
    · cases h
    · split at h
      · cases h
      · cases h
        rfl
  | delete n | create n body =>
    dsimp only at h
    split at h
    · cases h
    · cases h
      rfl
  | bulk n records =>
    dsimp only at h
    split at h
    next hsuccess =>
      rw [hsuccess]
      exact concludeBulk_kind h
    next hrefused =>
      rw [Bool.eq_false_iff.mpr hrefused]
      cases h
      rfl
  | count n =>
    dsimp only at h
    split at h
    next hsuccess =>
      rw [hsuccess]
      exact concludeCount_kind h
    next hrefused =>
      rw [Bool.eq_false_iff.mpr hrefused]
      cases h
      rfl

theorem concluded_kind {r : Request} {reply : Reply} {c : Call}
    (h : concluded r reply c = .error e) :
    e.kind = if c.readsBody && reply.succeeds then .parse else c.errorKind := by
  cases reply with
  | dropped =>
    -- Without an answer the error is made from the call alone.
    obtain rfl := Except.error.inj h
    rw [show Reply.dropped.succeeds = false from rfl, Bool.and_false]
    rfl
  | answered status body complete =>
    rw [Setup.concluded_answered] at h
    exact concludeAnswer_kind h

end Kinds

/-- The kind of a call's error is the one that the reply means, whatever the server replied. -/
theorem fault?_concluded {r : Request} {c : Call} (hmethod : r.method = c.method) (reply : Reply) :
    errorKind? (concluded r reply c) = c.fault? reply := by
  have hkind : ∀ e, concluded r reply c = .error e → _ := fun e h => concluded_kind h
  cases c with
  | ping =>
    cases reply with
    | dropped => rfl
    | answered status body complete =>
      rw [Setup.concluded_answered]
      rfl
  | «exists» n =>
    refine errorKind?_eq ?_ hkind
    rw [Setup.toOption_exists]
    cases reply.hasCode 200 <;> cases reply.hasCode 404 <;> rfl
  | delete n =>
    refine errorKind?_eq ?_ hkind
    rw [Setup.toOption_delete]
    cases reply.succeeds || reply.hasCode 404 <;> rfl
  | create n body =>
    refine errorKind?_eq ?_ hkind
    rw [Setup.toOption_create]
    cases reply.succeeds <;> rfl
  | bulk n records =>
    have hhead : r.method ≠ .head := by
      rw [hmethod]
      exact nofun
    have haccepted := congrArg Option.isSome (Setup.toOption_bulk hhead reply n records)
    rw [Option.isSome_map] at haccepted
    rw [errorKind?_eq haccepted hkind]
    -- A reply with a JSON value is one that succeeds.
    change _ = if (!reply.succeeds) = true then _ else if reply.json?.isSome = true then _ else _
    unfold Reply.json?
    cases reply.succeeds <;> rfl
  | count n =>
    have hhead : r.method ≠ .head := by
      rw [hmethod]
      exact nofun
    have haccepted := congrArg Option.isSome (Setup.toOption_count hhead reply n)
    rw [errorKind?_eq haccepted hkind]
    change _ = if (!reply.succeeds) = true then _ else if reply.count?.isSome = true then _ else _
    unfold Reply.count? Reply.json?
    cases reply.succeeds <;> rfl

/-! ## Calls over HTTP -/

/-- The reply to the request of a call.  A request that does not reach the server has none. -/
def Client.replyTo {τ : Type} (client : Client) (server : Server τ) (c : Call) (x : Exchange τ) :
    Reply :=
  match client.request c with
  | .error _ => .dropped
  | .ok r =>
    if r.url.isHttp && server.serves r.url then (server.respond r x.state).1 else .dropped

section Answers

variable {τ : Type} {client : Client} {server : Server τ} {c : Call} {x : Exchange τ}

/-- The answer to a call is concluded from the reply to its request, unless there is no request. -/
theorem answer_cases (himmediate : c.immediate? = none) :
    (∃ detail, ((client.service server).perform c x).answer = .error ⟨c.errorKind, detail⟩ ∧
        client.replyTo server c x = .dropped) ∨
      ∃ r : Request, r.method = c.method ∧
        ((client.service server).perform c x).answer =
          concluded r (client.replyTo server c x) c := by
  unfold Client.service Client.replyTo
  dsimp only
  rw [himmediate]
  cases hrequest : client.request c with
  | error e => exact .inl ⟨e.message, rfl, rfl⟩
  | ok r =>
    have hmethod : r.method = c.method := by
      unfold Client.request at hrequest
      obtain ⟨url, -, hr⟩ := bind_eq_ok hrequest
      cases hr
      rfl
    dsimp only
    unfold Exchange.send
    -- The request may not be one that can be sent, or it may not reach the server.
    cases r.url.isHttp with
    | false => exact .inl ⟨_, rfl, rfl⟩
    | true =>
      cases server.serves r.url with
      | false => exact .inl ⟨_, rfl, rfl⟩
      | true => exact .inr ⟨r, hmethod, rfl⟩

theorem fault?_answer (himmediate : c.immediate? = none) :
    errorKind? ((client.service server).perform c x).answer =
      c.fault? (client.replyTo server c x) := by
  rcases answer_cases himmediate with ⟨detail, hanswer, hreply⟩ | ⟨r, hmethod, hanswer⟩
  · rw [hanswer, hreply]
    cases c <;> rfl
  · rw [hanswer, fault?_concluded hmethod]

/-- A ping finds the service ready exactly if its reply means success. -/
theorem ping_answer_iff :
    ((client.service server).perform .ping x).answer = .ok true ↔
      (client.replyTo server .ping x).succeeds = true := by
  rcases answer_cases (c := .ping) rfl with ⟨detail, hanswer, hreply⟩ | ⟨r, -, hanswer⟩
  · rw [hanswer, hreply]
    exact iff_of_false nofun nofun
  · rw [hanswer]
    cases client.replyTo server .ping x with
    | dropped => exact iff_of_false nofun nofun
    | answered status body complete =>
      rw [Setup.concluded_answered]
      exact ⟨fun h => Except.ok.inj h, congrArg Except.ok⟩

/-- A check finds an index only with the code 200, and none only with the code 404. -/
theorem hasCode_of_exists {n : String} {found : Bool}
    (h : ((client.service server).perform (.exists n) x).answer = .ok found) :
    (client.replyTo server (.exists n) x).hasCode (if found then 200 else 404) = true := by
  rcases answer_cases (c := .exists n) rfl with ⟨detail, hanswer, -⟩ | ⟨r, -, hanswer⟩
  · cases hanswer.symm.trans h
  · have hcode := Setup.toOption_exists r (client.replyTo server (.exists n) x) n
    rw [← hanswer, h] at hcode
    cases hfound : (client.replyTo server (.exists n) x).hasCode 200 with
    | true =>
      rw [hfound] at hcode
      obtain rfl := Option.some.inj hcode
      exact hfound
    | false =>
      cases hmissing : (client.replyTo server (.exists n) x).hasCode 404 with
      | true =>
        rw [hfound, hmissing] at hcode
        obtain rfl := Option.some.inj hcode
        exact hmissing
      | false =>
        rw [hfound, hmissing] at hcode
        cases hcode

end Answers

end Reindex.Search
