import Reindex.Proofs.Procedure
import Reindex.Run.Load

/-!
# The steps of a load and their states

The work of a load carries the state that the load is in.  Between two steps that state is known, so
the steps can be written down with their states filled in; an error then comes with the step that it
ended.  Both ways of writing a load are the same procedure.
-/

namespace Reindex.Run

namespace Procedure

variable {ε ε' ε'' α β γ : Type}

/-- What goes on after a procedure can be told in two pieces or in one. -/
theorem andThen_andThen (p : Procedure ε α) (f : Except ε α → Procedure ε' β)
    (g : Except ε' β → Procedure ε'' γ) :
    (p.andThen f).andThen g = p.andThen fun r => (f r).andThen g := by
  induction p with
  | done result => rfl
  | call c rest ih => exact congrArg (call c) (funext ih)
  | fetch rest ih => exact congrArg fetch (funext ih)
  | pause ms rest ih => exact congrArg (pause ms) ih
  | log event rest ih => exact congrArg (log event) ih

end Procedure

open Procedure

/-! ## Steps with their states -/

/-- An error, and the step that it ended. -/
structure StepFailure where
  step : State
  error : Error
  deriving DecidableEq, Repr

/-- The state that a load ends in. -/
def finalState {ε α : Type} : Except ε α → State
  | .ok _ => .done
  | .error _ => .failed

/-- Passes from one state to the next. -/
def enter {ε : Type} (old new : State) : Procedure ε Unit := note (.stateChanged old new)

/-- Does the work of a step. -/
def during {α : Type} (step : State) (p : Procedure Error α) : Procedure StepFailure α :=
  p.mapError (⟨step, ·⟩)

/-- The steps of a load that starts in the state `start`. -/
def steps (config : Config) (start : State) : Procedure StepFailure Report := do
  enter start .probing
  let attempts ← during .probing config.readiness.awaitService
  enter .probing .initializing
  during .initializing (reset config.index)
  enter .initializing .fetching
  let dataset ← during .fetching records
  enter .fetching .ingesting
  let sent ← during .ingesting (config.ingest.insert config.index.name dataset)
  enter .ingesting .verifying
  let counted ← during .verifying ((perform (.count config.index.name)).mapError Error.service)
  if counted ≠ dataset.length then note (.countDiffers dataset.length counted sent.rejected)
  return ⟨attempts, dataset.length, sent.submitted, sent.rejected, counted⟩

/-! ## Work that carries its state -/

section Work

variable {α β : Type} {state last : State}

/-- What some work ends with that ends in the state `last` if it succeeds. -/
def settle (last : State) : Except StepFailure α → Procedure Empty (Except Error α × State)
  | .ok a => pure (.ok a, last)
  | .error failure => pure (.error failure.error, failure.step)

/-- The work `w`, begun in the state `state`, is `p` and ends in the state `last`. -/
def Carries (w : Work α) (state : State) (p : Procedure StepFailure α) (last : State) : Prop :=
  w.run.run state = p.andThen (settle last)

theorem carries_pure (a : α) : Carries (pure a) state (pure a) state := rfl

theorem carries_transition {new : State} {w : Unit → Work β} {p : Unit → Procedure StepFailure β}
    (h : Carries (w ()) new (p ()) last) :
    Carries ((liftM (transition new) : Work Unit) >>= w) state (enter state new >>= p) last := by
  unfold Carries at h ⊢
  exact congrArg (Procedure.log (.stateChanged state new)) h

theorem carries_doing {q : Procedure Error α} {w : α → Work β} {p : α → Procedure StepFailure β}
    (h : ∀ a, Carries (w a) state (p a) last) :
    Carries (doing q >>= w) state (during state q >>= p) last := by
  -- Both are `q` with something after it.
  have hleft : (doing q >>= w).run.run state = q.andThen fun
      | .ok a => (w a).run.run state
      | .error e => pure (.error e, state) := by
    change (((q.andThen _).andThen _).andThen _ : Procedure Empty _) = _
    rw [andThen_andThen, andThen_andThen]
    congr 1
    funext r
    cases r <;> rfl
  have hright : (during state q >>= p).andThen (settle last) = q.andThen fun
      | .ok a => (p a).andThen (settle last)
      | .error e => pure (.error e, state) := by
    change ((q.andThen _).andThen _).andThen _ = _
    rw [andThen_andThen, andThen_andThen]
    congr 1
    funext r
    cases r <;> rfl
  rw [Carries, hleft, hright]
  congr 1
  funext r
  cases r with
  | ok a => exact h a
  | error e => rfl

theorem carries_tell_if {c : Prop} [Decidable c] {event : Event} {w : Unit → Work β}
    {p : Unit → Procedure StepFailure β} (h : Carries (w ()) state (p ()) last) :
    Carries (if c then liftM (tell event) >>= w else w ()) state
      (if c then note event >>= p else p ()) last := by
  split
  · exact congrArg (Procedure.log event) h
  · exact h

end Work

theorem carries_runSteps (config : Config) (start : State) :
    Carries (runSteps config) start (steps config start) .verifying := by
  unfold runSteps steps
  refine carries_transition (carries_doing fun attempts => ?_)
  refine carries_transition (carries_doing fun _ => ?_)
  refine carries_transition (carries_doing fun dataset => ?_)
  refine carries_transition (carries_doing fun sent => ?_)
  refine carries_transition (carries_doing fun counted => ?_)
  exact carries_tell_if (carries_pure _)

/-- A load that starts in the state `start`, with its states filled in. -/
theorem orchestrate_eq (config : Config) (source : String) (start : State) :
    (orchestrate config source).run start =
      .log (.loadStarted source) ((steps config start).andThen fun
        | .ok report =>
          .log (.stateChanged .verifying .done) (pure (.ok report, .done))
        | .error failure =>
          .log (.stateChanged failure.step .failed)
            (.log (.runFailed failure.step failure.error.message)
              (pure (.error failure.error, .failed)))) := by
  have hrun : (orchestrate config source).run start =
      .log (.loadStarted source) (((runSteps config).run.run start).andThen _) := rfl
  rw [hrun, carries_runSteps, andThen_andThen]
  congr 2
  funext outcome
  cases outcome <;> rfl

theorem load_eq (config : Config) (source : String) (start : State) :
    load config source start = (do
      note (.loadStarted source)
      match ← (steps config start).attempt with
      | .ok report =>
        enter .verifying .done
        return report
      | .error failure =>
        enter failure.step .failed
        note (.runFailed failure.step failure.error.message)
        fail failure.error) := by
  unfold load
  rw [orchestrate_eq]
  change Procedure.log _ ((Procedure.andThen _ _).andThen _) =
    Procedure.log _ (((steps config start).andThen _).andThen _)
  rw [andThen_andThen, andThen_andThen]
  congr 2
  funext outcome
  cases outcome <;> rfl

end Reindex.Run
