import Reindex.Dataset.Source

/-!
# Procedures

A procedure is a tree of what to do next: call the service, fetch the dataset, pause, log, or be
done with a result or an error.  What it does with an answer is the function under that step, so a
procedure says what happens for every way the service and the source may answer.

`Procedure.run` lets a procedure act on a service and a source.  It keeps a journal of every step.
-/

namespace Reindex.Run

open Search (Call)

/-- What to do next, until a result or an error ends it. -/
inductive Procedure (ε α : Type) where
  | done (result : Except ε α)
  | call (c : Call) (next : c.Result → Procedure ε α)
  | fetch (next : Except Error (List Record) → Procedure ε α)
  | pause (ms : Nat) (next : Procedure ε α)
  | log (event : Event) (next : Procedure ε α)

namespace Procedure

variable {ε ε' α β : Type}

/-- Goes on with what a result leads to. -/
def andThen (next : Except ε α → Procedure ε' β) : Procedure ε α → Procedure ε' β
  | .done result => next result
  | .call c rest => .call c fun answer => (rest answer).andThen next
  | .fetch rest => .fetch fun answer => (rest answer).andThen next
  | .pause ms rest => .pause ms (rest.andThen next)
  | .log event rest => .log event (rest.andThen next)

/-- Ends with an error. -/
def fail (e : ε) : Procedure ε α := .done (.error e)

instance : Monad (Procedure ε) where
  pure a := .done (.ok a)
  bind p next := p.andThen fun
    | .ok a => next a
    | .error e => .fail e

/-- Ends with the result or the error of `p` as its result. -/
def attempt (p : Procedure ε α) : Procedure ε' (Except ε α) := p.andThen fun r => .done (.ok r)

/-- Fails with `f e` where `p` fails with `e`. -/
def mapError (f : ε → ε') (p : Procedure ε α) : Procedure ε' α :=
  p.andThen fun r => .done (r.mapError f)

/-- Calls the service, whatever comes of it. -/
def request (c : Call) : Procedure ε c.Result := .call c fun answer => .done (.ok answer)

/-- Calls the service and fails where the call does. -/
def perform (c : Call) : Procedure Search.Error c.Answer := .call c .done

/-- Fetches the dataset and fails where that does. -/
def records : Procedure Error (List Record) := .fetch .done

/-- Pauses. -/
def wait (ms : Nat) : Procedure ε Unit := .pause ms (.done (.ok ()))

/-- Logs an event. -/
def note (event : Event) : Procedure ε Unit := .log event (.done (.ok ()))

end Procedure

/-- One thing that happened while a procedure ran. -/
inductive Entry where
  | called (c : Call) (result : c.Result)
  | fetched (result : Except Error (List Record))
  | paused (ms : Nat)
  | logged (event : Event)

/-- How a procedure ended: its result, the state it left behind, and its journal. -/
structure Outcome (σ ε α : Type) where
  result : Except ε α
  state : σ
  journal : List Entry

/-- The outcome with earlier entries before its journal. -/
def Outcome.after {σ ε α : Type} (earlier : List Entry) (o : Outcome σ ε α) : Outcome σ ε α :=
  { o with journal := earlier ++ o.journal }

/-- Lets a procedure act on a service and a source that share their state. -/
def Procedure.run {σ ε α : Type} (service : Search.Service σ) (source : Dataset.Source σ) :
    Procedure ε α → σ → Outcome σ ε α
  | .done result, s => ⟨result, s, []⟩
  | .call c next, s =>
    let reply := service.perform c s
    ((next reply.answer).run service source reply.state).after
      (.called c reply.answer :: reply.events.map .logged)
  | .fetch next, s =>
    let reply := source.fetch s
    ((next reply.answer).run service source reply.state).after
      (.fetched reply.answer :: reply.events.map .logged)
  | .pause ms next, s => (next.run service source s).after [.paused ms]
  | .log event next, s => (next.run service source s).after [.logged event]

namespace Entry

/-- The call that an entry is about. -/
def call? : Entry → Option Call
  | .called c _ => some c
  | _ => none

/-- The event that an entry is about. -/
def event? : Entry → Option Event
  | .logged event => some event
  | _ => none

/-- The length of the pause that an entry is about. -/
def pause? : Entry → Option Nat
  | .paused ms => some ms
  | _ => none

end Entry

namespace Outcome

variable {σ ε α : Type}

/-- The calls that were made. -/
def calls (o : Outcome σ ε α) : List Call := o.journal.filterMap Entry.call?

/-- The events that were logged. -/
def events (o : Outcome σ ε α) : List Event := o.journal.filterMap Entry.event?

/-- The pauses that were made. -/
def pauses (o : Outcome σ ε α) : List Nat := o.journal.filterMap Entry.pause?

end Outcome

end Reindex.Run
