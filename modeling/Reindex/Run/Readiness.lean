import Reindex.Run.Error
import Reindex.Run.Procedure

/-!
# Waiting for the service

The service is pinged until it answers with success, at most a given number of times, with a pause
between two pings.  A ping that fails and one that is answered without success count the same.
-/

namespace Reindex.Run

/-- How often to ping and how long to pause in between, in milliseconds. -/
structure Readiness where
  maxAttempts : Nat
  interval : Nat
  deriving DecidableEq, Repr

namespace Readiness

open Procedure

/-- Thirty pings, two seconds apart. -/
def default : Readiness := ⟨30, 2000⟩

/-- Why the service does not count as ready after a ping, unless it does. -/
def refusal? : Search.Call.Result .ping → Option String
  | .ok true => none
  | .ok false => some "ping returned a non-success status"
  | .error e => some e.message

/-- Pings for the attempt number `attempt`, with `left` more attempts after it. -/
def attempts (r : Readiness) : (left attempt : Nat) → Procedure Error Nat
  | left, attempt => do
    match refusal? (← request .ping) with
    | none =>
      note (.serviceReady attempt)
      return attempt
    | some refusal =>
      note (.pingFailed attempt refusal)
      note (.stillAwaiting attempt r.maxAttempts)
      match left with
      | 0 => fail (.connectivity attempt refusal)
      | left + 1 =>
        wait r.interval
        attempts r left (attempt + 1)

/-- Waits until the service is ready and gives the number of the attempt that succeeded. -/
def awaitService (r : Readiness) : Procedure Error Nat :=
  match r.maxAttempts with
  | 0 => fail (.config "max attempts must be at least 1")
  | left + 1 => do
    note .awaitingService
    r.attempts left 1

end Readiness

end Reindex.Run
