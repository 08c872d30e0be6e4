import Reindex.Proofs.Failure.Fault
import Reindex.Proofs.Search.Link
import Reindex.Proofs.Trace.Entries
import Reindex.Proofs.Trace.Order

/-!
# What the error of a load says

A load over HTTP hears a reply to each request, and the dataset.  How it fails, in which step and
with which exit code, is told by the last of what it hears.
-/

namespace Reindex.Run

open Dataset (Source)
open Http (Exchange Reply Server)
open Search (Call Client errorKind?)

/-- What a load gets to hear: the reply to the request of a call, or the dataset. -/
inductive Heard where
  | reply (c : Call) (reply : Reply)
  | dataset (answer : Except Run.Error (List Record))

section Heard

variable {τ : Type} (client : Client) (server : Server τ) (source : Source (Exchange τ))

/-- What is heard on the way through the calls and fetches of a journal. -/
def heard : Exchange τ → List Entry → List Heard
  | _, [] => []
  | x, .called c _ :: rest =>
    .reply c (client.replyTo server c x) :: heard ((client.service server).perform c x).state rest
  | x, .fetched _ :: rest => .dataset (source.fetch x).answer :: heard (source.fetch x).state rest
  | x, .paused _ :: rest | x, .logged _ :: rest => heard x rest

variable {client server source} {x x' : Exchange τ} {t : List Entry}

theorem heard_append {a : List Entry} (h : Replays (client.service server) source x a x')
    (b : List Entry) :
    heard client server source x (a ++ b) =
      heard client server source x a ++ heard client server source x' b := by
  induction a generalizing x with
  | nil =>
    obtain rfl := h
    rfl
  | cons entry rest ih =>
    cases entry with
    | called c answer => exact congrArg (List.cons _) (ih h.2)
    | fetched answer => exact congrArg (List.cons _) (ih h.2)
    | paused ms | logged event => exact ih h

/-- The fault of a reply is the error of the answer that the load got. -/
theorem fault?_replyTo {c : Call} (himmediate : c.immediate? = none) {answer : c.Result}
    (h : answer = ((client.service server).perform c x).answer) :
    c.fault? (client.replyTo server c x) = errorKind? answer := by
  rw [h]
  exact (Search.fault?_answer himmediate).symm

/-- Each ping has one reply, which means success exactly if the ping is not refused. -/
theorem heard_pinged {answers : List (Call.Result .ping)}
    (h : Replays (client.service server) source x (pinged answers) x') :
    ∃ replies : List Reply,
      heard client server source x (pinged answers) = replies.map (.reply .ping) ∧
        replies.map Reply.succeeds =
          answers.map fun answer => (Readiness.refusal? answer).isNone := by
  induction answers generalizing x with
  | nil => exact ⟨[], rfl, rfl⟩
  | cons answer rest ih =>
    obtain ⟨hanswer, h⟩ := h
    obtain ⟨replies, hheard, hsucceeds⟩ := ih h
    refine ⟨client.replyTo server .ping x :: replies, congrArg (List.cons _) hheard, ?_⟩
    have hready : (client.replyTo server .ping x).succeeds =
        (Readiness.refusal? answer).isNone := by
      rw [Bool.eq_iff_iff, ← Search.ping_answer_iff, ← hanswer, Option.isNone_iff_eq_none,
        Readiness.refusal?_eq_none_iff]
    rw [List.map_cons, List.map_cons, hready, hsucceeds]

theorem refused_of_heard {answers : List (Call.Result .ping)} {replies : List Reply}
    (hsucceeds : replies.map Reply.succeeds =
      answers.map fun answer => (Readiness.refusal? answer).isNone)
    (hrefused : ∀ answer ∈ answers, answer ≠ .ok true) :
    ∀ reply ∈ replies, reply.succeeds = false := by
  intro reply hreply
  have hmem : reply.succeeds ∈ replies.map Reply.succeeds := List.mem_map_of_mem hreply
  rw [hsucceeds] at hmem
  obtain ⟨answer, hanswer, heq⟩ := List.mem_map.mp hmem
  rw [← heq, Bool.eq_false_iff, ne_eq, Option.isNone_iff_eq_none, Readiness.refusal?_eq_none_iff]
  exact hrefused answer hanswer

end Heard

/-! ## How loads fail -/

/-- What a load has heard when it fails, the step that it fails in, and its error. -/
inductive Fault (config : Config) : List Heard → State → Error → Prop where
  /-- Every ping that is allowed went out, and none had a reply that means success. -/
  | silent (replies : List Reply) (refusal : String)
      (hrefused : ∀ reply ∈ replies, reply.succeeds = false)
      (hcount : replies.length = config.readiness.maxAttempts) :
      Fault config (replies.map (.reply .ping)) .probing
        (.connectivity config.readiness.maxAttempts refusal)
  | unclear (pings : List Reply) (check : Reply) (e : Search.Error)
      (hcheck : (Call.exists config.index.name).fault? check = some e.kind) :
      Fault config (pings.map (.reply .ping) ++ [.reply (.exists config.index.name) check])
        .initializing (.service e)
  | undeleted (pings : List Reply) (check deletion : Reply) (e : Search.Error)
      (hcheck : check.hasCode 200 = true)
      (hdeletion : (Call.delete config.index.name).fault? deletion = some e.kind) :
      Fault config
        (pings.map (.reply .ping) ++ [.reply (.exists config.index.name) check,
          .reply (.delete config.index.name) deletion])
        .initializing (.service e)
  | uncreated (pings : List Reply) (check creation : Reply) (e : Search.Error)
      (hcheck : check.hasCode 404 = true)
      (hcreation :
        (Call.create config.index.name config.index.body).fault? creation = some e.kind) :
      Fault config
        (pings.map (.reply .ping) ++ [.reply (.exists config.index.name) check,
          .reply (.create config.index.name config.index.body) creation])
        .initializing (.service e)
  | lost (pings : List Reply) (check deletion creation : Reply) (e : Search.Error)
      (hcheck : check.hasCode 200 = true)
      (hdeletion : (Call.delete config.index.name).fault? deletion = none)
      (hcreation :
        (Call.create config.index.name config.index.body).fault? creation = some e.kind) :
      Fault config
        (pings.map (.reply .ping) ++ [.reply (.exists config.index.name) check,
          .reply (.delete config.index.name) deletion,
          .reply (.create config.index.name config.index.body) creation])
        .initializing (.indexRecreate config.index.name e)
  | unfetched (before : List Heard) (detail : String) :
      Fault config (before ++ [.dataset (.error (.fetch detail))]) .fetching (.fetch detail)
  | unwritten (before : List Heard) (batch : List Record) (answer : Reply) (e : Search.Error)
      (hanswer : (Call.bulk config.index.name batch).fault? answer = some e.kind) :
      Fault config (before ++ [.reply (.bulk config.index.name batch) answer]) .ingesting
        (.service e)
  | uncounted (before : List Heard) (answer : Reply) (e : Search.Error)
      (hanswer : (Call.count config.index.name).fault? answer = some e.kind) :
      Fault config (before ++ [.reply (.count config.index.name) answer]) .verifying (.service e)

/-- The exit code for a load that fails in a step. -/
def failureExit : State → UInt8
  | .probing => 2
  | .fetching => 4
  | _ => 3

variable {τ : Type} {client : Client} {server : Server τ} {source : Source (Exchange τ)}
  {config : Config} {x x' : Exchange τ} {t : List Entry}

theorem Fault.exitCode {replies : List Heard} {step : State} {err : Error}
    (h : Fault config replies step err) : err.exitCode = failureExit step := by
  cases h <;> rfl

theorem fault_of_probe {err : Error} (h : ProbeTrace config.readiness t (.error err))
    (hmax : 1 ≤ config.readiness.maxAttempts)
    (ht : Replays (client.service server) source x t x') :
    Fault config (heard client server source x t) .probing err := by
  cases h with
  | pointless hzero => omega
  | exhausted refused last refusal hrefused hlast hcount =>
    obtain ⟨replies, hheard, hsucceeds⟩ := heard_pinged ht
    have hall : ∀ answer ∈ refused ++ [last], answer ≠ .ok true :=
      List.forall_mem_append.mpr ⟨hrefused, List.forall_mem_singleton.mpr
        (Readiness.ne_of_refusal? hlast)⟩
    have hlength := congrArg List.length hsucceeds
    rw [List.length_map, List.length_map, List.length_append, List.length_singleton] at hlength
    rw [hheard]
    exact .silent replies refusal (refused_of_heard hsucceeds hall) (hlength.trans hcount)

theorem fault_of_reset {pings : List Reply} {before : List Heard} {err : Error}
    (hpings : before = pings.map (.reply .ping))
    (h : ResetTrace config.index t (.error err))
    (ht : Replays (client.service server) source x t x') :
    Fault config (before ++ heard client server source x t) .initializing err := by
  subst hpings
  cases h with
  | unclear e =>
    obtain ⟨hexists, rfl⟩ := ht
    exact .unclear _ _ e (fault?_replyTo rfl hexists)
  | undeleted e =>
    obtain ⟨hexists, hdelete, rfl⟩ := ht
    exact .undeleted _ _ _ e (Search.hasCode_of_exists hexists.symm) (fault?_replyTo rfl hdelete)
  | uncreated e =>
    obtain ⟨hexists, hcreate, rfl⟩ := ht
    exact .uncreated _ _ _ e (Search.hasCode_of_exists hexists.symm) (fault?_replyTo rfl hcreate)
  | lost e =>
    obtain ⟨hexists, hdelete, hcreate, rfl⟩ := ht
    exact .lost _ _ _ _ e (Search.hasCode_of_exists hexists.symm) (fault?_replyTo rfl hdelete)
      (fault?_replyTo rfl hcreate)

/-- A probe hears replies to pings alone. -/
theorem heard_probe {result : Except Error Nat} (h : ProbeTrace config.readiness t result)
    (ht : Replays (client.service server) source x t x') :
    ∃ replies : List Reply, heard client server source x t = replies.map (.reply .ping) := by
  obtain ⟨answers, rfl⟩ := h.eq_pinged
  obtain ⟨replies, hheard, -⟩ := heard_pinged ht
  exact ⟨replies, hheard⟩

/-- What a load heard that failed tells its step and its error. -/
theorem fault_of_trace {failure : StepFailure} (h : LoadTrace config t (.error failure))
    (hmax : 1 ≤ config.readiness.maxAttempts) (hsize : 1 ≤ config.ingest.batchSize)
    (hsource : source.OnlyFetchErrors)
    (ht : Replays (client.service server) source x t x') :
    Fault config (heard client server source x t) failure.step failure.error := by
  cases h with
  | probing hprobe => exact fault_of_probe hprobe hmax ht
  | initializing hprobe hreset =>
    obtain ⟨_, hpings, hcalls⟩ := replays_append.mp ht
    obtain ⟨replies, hheard⟩ := heard_probe hprobe hpings
    rw [heard_append hpings]
    exact fault_of_reset hheard hreset hcalls
  | fetching hprobe hreset err =>
    rw [← List.append_assoc] at ht ⊢
    obtain ⟨_, hbefore, hfetch, rfl⟩ := replays_append.mp ht
    obtain ⟨detail, rfl⟩ := hsource _ err hfetch.symm
    rw [heard_append hbefore]
    unfold heard
    rw [← hfetch]
    exact .unfetched _ detail
  | ingesting hprobe hreset hinsert =>
    rcases hinsert.of_error with ⟨-, hzero, -⟩ |
      ⟨-, earlier, later, batch, outcomes, e, hbatches, -, rfl, rfl⟩
    · omega
    · rw [← List.cons_append, ← List.append_assoc, ← List.append_assoc] at ht ⊢
      obtain ⟨_, hbefore, hanswer, rfl⟩ := replays_append.mp ht
      -- The batch that failed is one of the batches, so its request goes out.
      have hbatch : batch ≠ [] := ne_nil_of_mem_batches (by rw [hbatches]; simp)
      have himmediate : (Call.bulk config.index.name batch).immediate? = none := by
        cases batch with
        | nil => exact absurd rfl hbatch
        | cons => rfl
      rw [heard_append hbefore]
      exact .unwritten _ batch _ e (fault?_replyTo himmediate hanswer)
  | verifying hprobe hreset hinsert e =>
    rw [← List.cons_append, ← List.append_assoc, ← List.append_assoc] at ht ⊢
    obtain ⟨_, hbefore, hanswer, rfl⟩ := replays_append.mp ht
    rw [heard_append hbefore]
    exact .uncounted _ _ e (fault?_replyTo rfl hanswer)

section Iff

variable {replies : List Heard} {step : State} {err : Error}

end Iff

/-! ## Runs -/

end Reindex.Run
