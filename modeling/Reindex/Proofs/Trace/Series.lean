import Reindex.Proofs.Trace.Course
import Reindex.Proofs.Trace.Order

/-!
# Loads in a row

A load starts in the state that the load before it has come to.  The changes of state that such
loads log are one chain, whatever the service and the source do meanwhile and in between, and each
load tells of its own course.
-/

namespace Reindex.Run

open Search (Engine Service)
open Dataset (Source)

/-! ## Chains of changes -/

/-- The state after some changes, each of which sets it anew. -/
def stateAfter (start : State) (changes : List (State × State)) : State :=
  changes.foldl (fun _ change => change.2) start

/-- Each change leads from where the one before it has led to, and the first one from `start`. -/
def Linked : State → List (State × State) → Prop
  | _, [] => True
  | start, change :: rest => change.1 = start ∧ Linked change.2 rest

theorem linked_append {start : State} {a b : List (State × State)} (ha : Linked start a)
    (hb : Linked (stateAfter start a) b) : Linked start (a ++ b) := by
  induction a generalizing start with
  | nil => exact hb
  | cons change rest ih => exact ⟨ha.1, ih ha.2 hb⟩

theorem linked_links (start : State) (states : List State) : Linked start (links start states) := by
  induction states generalizing start with
  | nil => trivial
  | cons next rest ih => exact ⟨rfl, ih next⟩

theorem stateAfter_links (start last : State) (states : List State) :
    stateAfter start (links start (states ++ [last])) = last := by
  induction states generalizing start with
  | nil => rfl
  | cons next rest ih => exact ih next

/-! ## Loads and their journals -/

/-- A load that was run: the state that it started in, its outcome, the state that it has come to,
and its journal without what the service and the source have logged. -/
structure Turn (σ : Type) where
  start : State
  outcome : Outcome σ Error Report
  final : State
  own : List Entry

/-- What comes of something that cannot fail. -/
def settled {α : Type} : Except Empty α → α
  | .ok a => a

variable {σ : Type} (config : Config) (name : String) (service : Service σ) (source : Source σ)

/-- Runs a load. -/
def turn (start : State) (s : σ) : Turn σ :=
  let whole := (orchestrate config name).run start
  let run := whole.run service source s
  { start
    outcome := ⟨(settled run.result).1, run.state, run.journal⟩
    final := (settled run.result).2
    own := whole.ownJournal service source s }

/-- Runs one load after another.  Where the service and the source are when it is the turn of a load
is given for each of them: what happens in between is up to others. -/
def series (start : State) : List σ → List (Turn σ)
  | [] => []
  | s :: rest =>
    let t := turn config name service source start s
    t :: series t.final rest

/-- What a load tells in its log. -/
structure Turn.Course (config : Config) (name : String) (t : Turn σ) : Prop where
  /-- It names its source, and then it goes through its steps. -/
  walk : ∃ rest, t.own = .logged (.loadStarted name) :: rest ∧
    Walk config t.start order rest t.outcome.result
  /-- It has entered at least the first step, and it tells how far it has come. -/
  tells : ∃ entered, entered ≠ [] ∧ Tells t.start order t.own t.outcome.result entered
  final : t.final = finalState t.outcome.result
  /-- The state that it has come to is the one that it has told of last. -/
  changed : t.final = stateAfter t.start (changes t.own)
  /-- It tells of no failure but that of a step. -/
  step : ∀ failure ∈ failures t.own, failure.1 ∈ order ∧ failure.1 ≠ .done ∧ failure.1 ≠ .failed

variable {config name service source}

theorem stateAfter_of_tells {start : State} {steps entered : List State} {journal : List Entry}
    {result : Except Error Report} (h : Tells start steps journal result entered) :
    stateAfter start (changes journal) = finalState result := by
  rw [h.changes, stateAfter_links]

/-- The outcome of a turn is that of a load. -/
theorem outcome_turn (start : State) (s : σ) :
    (turn config name service source start s).outcome =
      (load config name start).run service source s := by
  unfold turn
  dsimp only
  rw [run_orchestrate, run_load]
  rfl

theorem final_turn (start : State) (s : σ) :
    (turn config name service source start s).final =
      finalState (turn config name service source start s).outcome.result := by
  unfold turn
  dsimp only
  rw [run_orchestrate]
  cases ((steps config start).run service source s).result <;> rfl

theorem admits_turn (start : State) (s : σ) :
    (load config name start).Admits (turn config name service source start s).own
      (turn config name service source start s).outcome.result := by
  refine Procedure.admits_andThen.mpr
    ⟨_, _, [], (List.append_nil _).symm, admits_ownJournal .., ?_⟩
  unfold turn
  dsimp only
  rw [run_orchestrate]
  exact ⟨rfl, rfl⟩

theorem course_of_turn (start : State) (s : σ) :
    (turn config name service source start s).Course config name := by
  have hadmits : (load config name start).Admits (turn config name service source start s).own _ :=
    admits_turn start s
  obtain ⟨rest, hown, hwalk⟩ := walk_of_load hadmits
  obtain ⟨entered, hrest⟩ := hwalk.tells
  -- The name of the source is no mark, so the whole journal tells what the walk does.
  have htells : Tells start order ([.logged (.loadStarted name)] ++ rest) _ entered :=
    hrest.after rfl
  rw [List.singleton_append, ← hown] at htells
  refine ⟨⟨rest, hown, hwalk⟩, ⟨entered, htells.nonempty (List.cons_ne_nil _ _), htells⟩,
    final_turn start s, (final_turn start s).trans (stateAfter_of_tells htells).symm,
    fun failure hfailure => ?_⟩
  have hstep : failure.1 ∈ order := htells.mem_of_failure hfailure
  refine ⟨hstep, ?_, ?_⟩
  · intro hdone
    rw [hdone] at hstep
    exact absurd hstep (by decide)
  · intro hfailed
    rw [hfailed] at hstep
    exact absurd hstep (by decide)

/-! ## Loads in a row -/

theorem linked_changes_of_series (start : State) (worlds : List σ) :
    Linked start ((series config name service source start worlds).flatMap fun t =>
      changes t.own) := by
  induction worlds generalizing start with
  | nil => trivial
  | cons s rest ih =>
    have hcourse : (turn config name service source start s).Course config name :=
      course_of_turn start s
    obtain ⟨entered, -, htells⟩ := hcourse.tells
    refine linked_append ?_ (hcourse.changed ▸ ih _)
    show Linked start (changes (turn config name service source start s).own)
    rw [htells.changes]
    exact linked_links ..

theorem exists_turn {t : Turn σ} {start : State} {worlds : List σ}
    (h : t ∈ series config name service source start worlds) :
    ∃ before s, t = turn config name service source before s := by
  induction worlds generalizing start with
  | nil => cases h
  | cons s rest ih =>
    rcases List.mem_cons.mp h with rfl | h
    · exact ⟨start, s, rfl⟩
    · exact ih h

/-- The changes of state that loads in a row log are one chain from `idle`, for any service and any
source.  Each load enters some first steps and, last of all, `done` if it succeeds and `failed` if
not; a step is entered only if the one before it has succeeded; and of a failure it tells once, in
the end.  Nothing else in its log does so if the service and the source log no such things. -/
theorem course_of_series (config : Config) (name : String) (service : Service σ)
    (source : Source σ) (worlds : List σ) :
    let turns := series config name service source .idle worlds
    Linked .idle (turns.flatMap fun t => changes t.own) ∧
      ∀ t ∈ turns, t.Course config name ∧
        (∃ s, t.outcome = (load config name t.start).run service source s) ∧
        contacts t.own = t.outcome.contacts ∧ t.own.Sublist t.outcome.journal ∧
        (QuietService service → QuietSource source →
          marks t.outcome.events = marks (t.own.filterMap Entry.event?)) := by
  intro turns
  refine ⟨linked_changes_of_series _ worlds, fun t ht => ?_⟩
  obtain ⟨start, s, rfl⟩ := exists_turn ht
  exact ⟨course_of_turn start s, ⟨s, outcome_turn start s⟩, (contacts_ownJournal ..).symm,
    ownJournal_sublist .., fun hservice hsource => marks_ownJournal hservice hsource ..⟩

/-- Two loads of an engine whose first bulk request fails. -/
theorem course_of_second_load :
    let engine := { lateEngine with failBulkOnCall := some 1 }
    let source : Source Engine := .constant (.ok threeRecords)
    let between := (turn smallConfig "memory" Engine.service source .idle engine).outcome.state
    let turns := series smallConfig "memory" Engine.service source .idle [engine, between]
    turns.map (fun t => t.outcome.result.toOption.isSome) = [false, true] ∧
      turns.map Turn.final = [.failed, .done] ∧
      (turns.flatMap fun t => changes t.own).map Prod.snd =
        [.probing, .initializing, .fetching, .ingesting, .failed,
          .probing, .initializing, .fetching, .ingesting, .verifying, .done] ∧
      Linked .idle (turns.flatMap fun t => changes t.own) ∧
      ∀ t ∈ turns, t.Course smallConfig "memory" ∧
        marks t.outcome.events = marks (t.own.filterMap Entry.event?) := by
  intro engine source between turns
  obtain ⟨hlinked, hturns⟩ :=
    course_of_series smallConfig "memory" Engine.service source [engine, between]
  refine ⟨by decide +kernel, by decide +kernel, by decide +kernel, hlinked, fun t ht => ?_⟩
  obtain ⟨hcourse, -, -, -, hmarks⟩ := hturns t ht
  exact ⟨hcourse, hmarks quiet_engine (quiet_constant _)⟩

end Reindex.Run
