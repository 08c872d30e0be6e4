import Reindex.Search.Call

/-!
# Injected faults

A service whose calls can be made to go wrong: a fault waits for the n-th call of one kind and
answers it in place of the service.
-/

namespace Reindex.Search

/-- What is answered in place of the service. -/
inductive Injected where
  | error (e : Error)
  /-- An answer in the form of JSON: a truth value, a number, the counts of a bulk request, or the
  response to one. -/
  | answer (value : Json)
  deriving Repr, BEq

/-- A fault that waits for a call. -/
structure Fault where
  kind : Call.Kind
  /-- The number of the call, counted from now. -/
  nth : Nat
  injected : Injected
  deriving Repr, BEq

/-- The outcome of a bulk request of `total` documents that an injected answer gives: the response
to one if it has items, otherwise a number of failures and their reasons. -/
def injectedSummary (total : Nat) (value : Json) : BulkSummary :=
  if (value.field? "items").isSome then BulkSummary.ofResponse total value
  else
    let reasons := (((value.field? "reasons").bind Json.asArray?).getD []).filterMap Json.asString?
    ⟨total, 0, ((value.field? "failed").bind Json.asNat?).getD 0, reasons.map (⟨0, 400, ·⟩)⟩

/-- The result that an injected answer means for a call. -/
def Injected.result : Injected → (c : Call) → c.Result
  | .error e, _ => .error e
  | .answer value, .ping => .ok (value.asBool?.getD false)
  | .answer value, .exists _ => .ok (value.asBool?.getD false)
  | .answer _, .delete _ => .ok ()
  | .answer _, .create _ _ => .ok ()
  | .answer value, .bulk _ records => .ok (injectedSummary records.length value)
  | .answer value, .count _ => .ok (value.asNat?.getD 0)

/-- The fault that meets the next call of a kind. -/
def dueFault? (kind : Call.Kind) (faults : List Fault) : Option Fault :=
  faults.find? fun f => f.kind == kind && f.nth == 1

/-- The faults after a call of a kind: those of that kind wait for one call less. -/
def faultsAfter (kind : Call.Kind) (faults : List Fault) : List Fault :=
  faults.map fun f => if f.kind = kind then { f with nth := f.nth - 1 } else f

/-- The state of a service together with the faults that wait. -/
structure Faulty (σ : Type) where
  inner : σ
  faults : List Fault

/-- A service to which the waiting faults happen. -/
def Service.withFaults {σ : Type} (service : Service σ) : Service (Faulty σ) where
  perform c s :=
    let faults := faultsAfter c.kind s.faults
    match dueFault? c.kind s.faults with
    | some fault => ⟨fault.injected.result c, [], ⟨s.inner, faults⟩⟩
    | none =>
      let reply := service.perform c s.inner
      ⟨reply.answer, reply.events, ⟨reply.state, faults⟩⟩

end Reindex.Search
