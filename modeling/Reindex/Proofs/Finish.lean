import Reindex.Proofs.Steps

/-!
# How runs end

The result of a run and the state that it leaves, step by step, and what it logs in the end.
-/

namespace Reindex.Run

open Search (Call Service)
open Dataset (Source)

namespace Procedure

variable {σ ε ε' α β : Type} {service : Service σ} {source : Source σ}

/-- The result of a run and the state that it leaves. -/
def finish (service : Service σ) (source : Source σ) (p : Procedure ε α) (s : σ) :
    Except ε α × σ :=
  ((p.run service source s).result, (p.run service source s).state)

theorem after_after (first second : List Entry) (o : Outcome σ ε α) :
    (o.after second).after first = o.after (first ++ second) := by
  unfold Outcome.after
  rw [List.append_assoc]

/-- What goes on after `p` runs on from where `p` ended. -/
theorem run_andThen (p : Procedure ε α) (next : Except ε α → Procedure ε' β) (s : σ) :
    (p.andThen next).run service source s =
      ((next (p.run service source s).result).run service source
        (p.run service source s).state).after (p.run service source s).journal := by
  induction p generalizing s with
  | done result => rfl
  -- Every other node puts its own entries in front.
  | call c rest ih => exact (congrArg (Outcome.after _) (ih _ _)).trans (after_after ..)
  | fetch rest ih => exact (congrArg (Outcome.after _) (ih _ _)).trans (after_after ..)
  | pause ms rest ih => exact (congrArg (Outcome.after _) (ih s)).trans (after_after ..)
  | log event rest ih => exact (congrArg (Outcome.after _) (ih s)).trans (after_after ..)

theorem finish_andThen (p : Procedure ε α) (next : Except ε α → Procedure ε' β) (s : σ) :
    (p.andThen next).finish service source s =
      (next (p.finish service source s).1).finish service source (p.finish service source s).2 := by
  unfold finish
  rw [run_andThen]
  rfl

theorem finish_bind_ok {p : Procedure ε α} {f : α → Procedure ε β} {s s' : σ} {a : α}
    (h : p.finish service source s = (.ok a, s')) :
    (p >>= f).finish service source s = (f a).finish service source s' := by
  change (p.andThen _).finish service source s = _
  rw [finish_andThen, h]

theorem finish_bind_error {p : Procedure ε α} {f : α → Procedure ε β} {s s' : σ} {e : ε}
    (h : p.finish service source s = (.error e, s')) :
    (p >>= f).finish service source s = (.error e, s') := by
  change (p.andThen _).finish service source s = _
  rw [finish_andThen, h]
  rfl

theorem finish_mapError (f : ε → ε') (p : Procedure ε α) (s : σ) :
    (p.mapError f).finish service source s =
      ((p.finish service source s).1.mapError f, (p.finish service source s).2) := by
  unfold mapError
  rw [finish_andThen]
  rfl

theorem finish_note_bind (event : Event) (f : Unit → Procedure ε β) (s : σ) :
    (note event >>= f).finish service source s = (f ()).finish service source s := rfl

theorem finish_request_bind (c : Call) (f : c.Result → Procedure ε β) (s : σ) :
    (request c >>= f).finish service source s =
      (f (service.perform c s).answer).finish service source (service.perform c s).state := rfl

end Procedure

open Procedure

section Loads

variable {σ : Type} {service : Service σ} {source : Source σ} {config : Config} {start : State}
  {s s' s'' : σ}

/-- What a load does once its index is new. -/
def afterReset (config : Config) (attempts : Nat) : Procedure StepFailure Report := do
  enter .initializing .fetching
  let dataset ← during .fetching records
  enter .fetching .ingesting
  let sent ← during .ingesting (config.ingest.insert config.index.name dataset)
  enter .ingesting .verifying
  let counted ← during .verifying ((perform (.count config.index.name)).mapError Error.service)
  if counted ≠ dataset.length then note (.countDiffers dataset.length counted sent.rejected)
  return ⟨attempts, dataset.length, sent.submitted, sent.rejected, counted⟩

theorem finish_during {α : Type} {step : State} {p : Procedure Error α} {r : Except Error α}
    (h : p.finish service source s = (r, s')) :
    (during step p).finish service source s = (r.mapError (⟨step, ·⟩), s') := by
  unfold during
  rw [finish_mapError, h]

theorem finish_enter_bind {ε β : Type} (old new : State) (f : Unit → Procedure ε β) (s : σ) :
    (enter old new >>= f).finish service source s = (f ()).finish service source s := rfl

/-- Once the service was found ready, the reset decides how the steps go on. -/
theorem finish_steps {attempts : Nat}
    (hprobe : config.readiness.awaitService.finish service source s = (.ok attempts, s')) :
    (steps config start).finish service source s =
      (during .initializing (reset config.index) >>= fun _ =>
        afterReset config attempts).finish service source s' := by
  have hduring : (during .probing config.readiness.awaitService).finish service source s =
      (.ok attempts, s') := finish_during hprobe
  unfold steps
  rw [finish_enter_bind, finish_bind_ok hduring, finish_enter_bind]
  rfl

theorem finish_steps_of_ok {attempts : Nat}
    (hprobe : config.readiness.awaitService.finish service source s = (.ok attempts, s'))
    (hreset : (reset config.index).finish service source s' = (.ok (), s'')) :
    (steps config start).finish service source s =
      (afterReset config attempts).finish service source s'' := by
  have hduring : (during .initializing (reset config.index)).finish service source s' =
      (.ok (), s'') := finish_during hreset
  rw [finish_steps hprobe, finish_bind_ok hduring]

theorem finish_steps_of_error {attempts : Nat} {err : Error}
    (hprobe : config.readiness.awaitService.finish service source s = (.ok attempts, s'))
    (hreset : (reset config.index).finish service source s' = (.error err, s'')) :
    (steps config start).finish service source s = (.error ⟨.initializing, err⟩, s'') := by
  have hduring : (during .initializing (reset config.index)).finish service source s' =
      (.error ⟨.initializing, err⟩, s'') := finish_during hreset
  rw [finish_steps hprobe, finish_bind_error hduring]

/-- What a load logs after its steps. -/
def ending : Except StepFailure Report → List Entry
  | .ok _ => [.logged (.stateChanged .verifying .done)]
  | .error failure =>
    [.logged (.stateChanged failure.step .failed),
      .logged (.runFailed failure.step failure.error.message)]

/-- A load runs its steps, and then it logs how they ended.  It comes to the state that it logs. -/
theorem run_orchestrate (config : Config) (name : String) (start : State) (s : σ) :
    let work := (steps config start).run service source s
    ((orchestrate config name).run start).run service source s =
      ⟨.ok (work.result.mapError StepFailure.error, finalState work.result), work.state,
        .logged (.loadStarted name) :: (work.journal ++ ending work.result)⟩ := by
  intro work
  rw [orchestrate_eq]
  change (Procedure.run service source (andThen _ _) s).after [_] = _
  rw [run_andThen]
  change ((Procedure.run service source _ work.state).after work.journal).after _ = _
  cases work.result with
  | ok report => rfl
  | error failure => rfl

theorem run_load (config : Config) (name : String) (start : State) (s : σ) :
    let work := (steps config start).run service source s
    (load config name start).run service source s =
      ⟨work.result.mapError StepFailure.error, work.state,
        .logged (.loadStarted name) :: (work.journal ++ ending work.result)⟩ := by
  intro work
  unfold load
  rw [run_andThen, run_orchestrate]
  change Outcome.mk _ _ (_ ++ []) = _
  rw [List.append_nil]
  rfl

theorem finish_load (config : Config) (name : String) (start : State) (s : σ) :
    (load config name start).finish service source s =
      (((steps config start).finish service source s).1.mapError StepFailure.error,
        ((steps config start).finish service source s).2) := by
  unfold finish
  rw [run_load]

/-- A load does what its steps do. -/
theorem actions_run_load (config : Config) (name : String) (start : State) (s : σ) :
    ((load config name start).run service source s).actions =
      ((steps config start).run service source s).actions := by
  rw [run_load]
  unfold Outcome.actions
  dsimp only
  rw [actions_logged, actions_append]
  cases ((steps config start).run service source s).result <;>
    exact List.append_nil _

/-- A load makes the calls and fetches of its steps. -/
theorem contacts_run_load (config : Config) (name : String) (start : State) (s : σ) :
    ((load config name start).run service source s).contacts =
      ((steps config start).run service source s).contacts := by
  have hactions : ((load config name start).run service source s).actions =
      ((steps config start).run service source s).actions := actions_run_load ..
  exact (contacts_actions _).symm.trans ((congrArg contacts hactions).trans (contacts_actions _))

theorem events_run_load (config : Config) (name : String) (start : State) (s : σ) :
    let work := (steps config start).run service source s
    ((load config name start).run service source s).events =
      .loadStarted name :: (work.events ++ (ending work.result).filterMap Entry.event?) := by
  intro work
  rw [run_load]
  exact congrArg (Event.loadStarted name :: ·) List.filterMap_append

/-- A load that fails logs in the end which step it was in, and the message of the error. -/
theorem events_of_failure {failure : StepFailure} (name : String)
    (h : ((steps config start).run service source s).result = .error failure) :
    ∃ earlier, ((load config name start).run service source s).events =
      earlier ++ [.stateChanged failure.step .failed,
        .runFailed failure.step failure.error.message] := by
  rw [events_run_load, h, ← List.cons_append]
  exact ⟨_, rfl⟩

end Loads

end Reindex.Run
