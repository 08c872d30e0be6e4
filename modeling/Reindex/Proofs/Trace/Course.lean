import Reindex.Proofs.Marks
import Reindex.Proofs.Trace.Load

/-!
# The course of a load

A load says in its log which state it enters and, if it fails, where.  `Walk` describes its journal
by these marks: between two of them stand the calls of one step, and the next state is entered only
if they succeeded.

The journal in question is the load's own, without what the service and the source log meanwhile.
-/

namespace Reindex.Run

open Search (Call)
open Procedure

/-! ## Work without marks -/

/-- No mark is logged. -/
def Unmarked (journal : List Entry) : Prop := marks (journal.filterMap Entry.event?) = []

namespace Procedure

variable {ε ε' α β : Type}

/-- The procedure logs none of the events of `loud` itself. -/
def Discreet (loud : Event → Bool) : Procedure ε α → Prop
  | .done _ => True
  | .call _ next => ∀ answer, (next answer).Discreet loud
  | .fetch next => ∀ answer, (next answer).Discreet loud
  | .pause _ next => next.Discreet loud
  | .log event next => loud event = false ∧ next.Discreet loud

variable {loud loud' : Event → Bool}

theorem Discreet.mono (himp : ∀ event, loud' event = true → loud event = true)
    {p : Procedure ε α} (h : p.Discreet loud) : p.Discreet loud' := by
  induction p with
  | done result => trivial
  | call c next ih => exact fun answer => ih answer (h answer)
  | fetch next ih => exact fun answer => ih answer (h answer)
  | pause ms next ih => exact ih h
  | log event next ih =>
    refine ⟨Bool.eq_false_iff.mpr fun hloud => ?_, ih h.2⟩
    exact Bool.eq_false_iff.mp h.1 (himp event hloud)

theorem Discreet.unmarked {p : Procedure ε α} (h : p.Discreet isMark) {journal : List Entry}
    {r : Except ε α} (hjournal : p.Admits journal r) : Unmarked journal := by
  induction p generalizing journal with
  | done result =>
    obtain ⟨rfl, -⟩ := hjournal
    rfl
  -- Calls, fetches and pauses are no events.
  | call c next ih =>
    obtain ⟨answer, rest, rfl, hrest⟩ := hjournal
    show Unmarked rest
    exact ih answer (h answer) hrest
  | fetch next ih =>
    obtain ⟨answer, rest, rfl, hrest⟩ := hjournal
    show Unmarked rest
    exact ih answer (h answer) hrest
  | pause ms next ih =>
    obtain ⟨rest, rfl, hrest⟩ := hjournal
    show Unmarked rest
    exact ih h hrest
  | log event next ih =>
    obtain ⟨rest, rfl, hrest⟩ := hjournal
    show marks (event :: rest.filterMap Entry.event?) = []
    rw [marks, List.filter_cons_of_neg (ne_true_of_eq_false h.1)]
    exact ih h.2 hrest

theorem Discreet.andThen {p : Procedure ε α} {next : Except ε α → Procedure ε' β}
    (h : p.Discreet loud) (hnext : ∀ r, (next r).Discreet loud) :
    (p.andThen next).Discreet loud := by
  induction p with
  | done result => exact hnext result
  | call c rest ih => exact fun answer => ih answer (h answer)
  | fetch rest ih => exact fun answer => ih answer (h answer)
  | pause ms rest ih => exact ih h
  | log event rest ih => exact ⟨h.1, ih h.2⟩

theorem Discreet.bind {p : Procedure ε α} {f : α → Procedure ε β} (h : p.Discreet loud)
    (hf : ∀ a, (f a).Discreet loud) : (p >>= f).Discreet loud := by
  apply h.andThen
  intro r
  cases r with
  | ok a => exact hf a
  | error e => trivial

theorem Discreet.mapError {p : Procedure ε α} (f : ε → ε') (h : p.Discreet loud) :
    (p.mapError f).Discreet loud :=
  h.andThen fun _ => trivial

theorem discreet_fail (e : ε) : (fail e : Procedure ε α).Discreet loud := trivial

theorem discreet_pure (a : α) : (pure a : Procedure ε α).Discreet loud := trivial

theorem discreet_request (c : Call) : (request c : Procedure ε c.Result).Discreet loud :=
  fun _ => trivial

theorem discreet_perform (c : Call) : (perform c).Discreet loud := fun _ => trivial

theorem discreet_records : records.Discreet loud := fun _ => trivial

theorem discreet_wait (ms : Nat) : (wait ms : Procedure ε Unit).Discreet loud := trivial

theorem discreet_note {event : Event} (h : loud event = false) :
    (note event : Procedure ε Unit).Discreet loud := ⟨h, trivial⟩

end Procedure

/-! ## The steps of a load -/

theorem discreet_attempts (r : Readiness) (left attempt : Nat) :
    (r.attempts left attempt).Discreet isHeading := by
  induction left generalizing attempt with
  | zero =>
    unfold Readiness.attempts
    refine (discreet_request _).bind fun answer => ?_
    split
    · exact (discreet_note rfl).bind fun _ => discreet_pure _
    · exact (discreet_note rfl).bind fun _ => (discreet_note rfl).bind fun _ => discreet_fail _
  | succ left ih =>
    unfold Readiness.attempts
    refine (discreet_request _).bind fun answer => ?_
    split
    · exact (discreet_note rfl).bind fun _ => discreet_pure _
    · exact (discreet_note rfl).bind fun _ => (discreet_note rfl).bind fun _ =>
        (discreet_wait _).bind fun _ => ih _

theorem discreet_awaitService (r : Readiness) : r.awaitService.Discreet isHeading := by
  unfold Readiness.awaitService
  split
  · exact discreet_fail _
  · exact (discreet_note rfl).bind fun _ => discreet_attempts ..

theorem discreet_reset (index : Search.IndexConfig) : (reset index).Discreet isHeading := by
  unfold reset
  refine (discreet_note rfl).bind fun _ => ((discreet_perform _).mapError _).bind fun existed => ?_
  cases existed with
  | false =>
    refine (discreet_request _).bind fun answer => ?_
    split
    · exact discreet_note rfl
    · exact discreet_fail _
  | true =>
    refine (discreet_note rfl).bind fun _ => ((discreet_perform _).mapError _).bind fun _ => ?_
    refine (discreet_request _).bind fun answer => ?_
    split
    · exact discreet_note rfl
    · exact (discreet_note rfl).bind fun _ => discreet_fail _

theorem discreet_send (ingest : Ingest) (index : String) (total : Nat)
    (pending : List (List Record)) (sent : IngestSummary) :
    (ingest.send index total pending sent).Discreet isHeading := by
  induction pending generalizing sent with
  | nil => exact discreet_pure _
  | cons batch rest ih =>
    -- What follows a request that was answered, whether or not documents were rejected.
    have hrest : ∀ sent, Discreet isHeading (note (.inserted sent.submitted) >>= fun _ =>
        if rest.isEmpty = true then ingest.send index total rest sent
        else wait ingest.pacing >>= fun _ => ingest.send index total rest sent) := by
      intro sent
      refine (discreet_note rfl).bind fun _ => ?_
      split
      · exact ih sent
      · exact (discreet_wait _).bind fun _ => ih sent
    unfold Ingest.send
    refine (discreet_request _).bind fun answer => ?_
    cases answer with
    | error e => exact (discreet_note rfl).bind fun _ => discreet_fail _
    | ok summary =>
      dsimp only
      split
      · exact (discreet_note rfl).bind fun _ => hrest _
      · exact hrest _

theorem discreet_insert (ingest : Ingest) (index : String) (records : List Record) :
    (ingest.insert index records).Discreet isHeading := by
  unfold Ingest.insert
  split
  · exact discreet_fail _
  · exact (discreet_note rfl).bind fun _ => discreet_send ..

theorem discreet_during {α : Type} {p : Procedure Error α} (h : p.Discreet isHeading)
    (step : State) : (during step p).Discreet isOfDataset :=
  (h.mono fun _ => isHeading_of_isOfDataset).mapError _

/-- The steps of a load leave it to the source to tell of the dataset. -/
theorem discreet_steps (config : Config) (start : State) :
    (steps config start).Discreet isOfDataset := by
  unfold steps
  refine (discreet_note rfl).bind fun _ => ?_
  refine (discreet_during (discreet_awaitService _) _).bind fun attempts => ?_
  refine (discreet_note rfl).bind fun _ => ?_
  refine (discreet_during (discreet_reset _) _).bind fun _ => ?_
  refine (discreet_note rfl).bind fun _ => ?_
  refine (discreet_during discreet_records _).bind fun dataset => ?_
  refine (discreet_note rfl).bind fun _ => ?_
  refine (discreet_during (discreet_insert ..) _).bind fun sent => ?_
  refine (discreet_note rfl).bind fun _ => ?_
  refine (discreet_during ((discreet_perform _).mapError _) _).bind fun counted => ?_
  split
  · exact (discreet_note rfl).bind fun _ => discreet_pure _
  · exact discreet_pure _

/-! ## Walks -/

/-- The states that a load goes through, in this order. -/
def order : List State := [.probing, .initializing, .fetching, .ingesting, .verifying]

/-- The calls of a step's work, and whether it succeeds. -/
inductive StepTrace (config : Config) : State → List Entry → Except Error Unit → Prop where
  | probing {t : List Entry} {result : Except Error Nat}
      (h : ProbeTrace config.readiness t result) :
      StepTrace config .probing t (result.map fun _ => ())
  | initializing {t : List Entry} {result : Except Error Unit}
      (h : ResetTrace config.index t result) : StepTrace config .initializing t result
  | fetching (answer : Except Run.Error (List Record)) :
      StepTrace config .fetching [.fetched answer] (answer.map fun _ => ())
  | ingesting {records : List Record} {t : List Entry} {result : Except Error IngestSummary}
      (h : InsertTrace config.ingest config.index.name records t result) :
      StepTrace config .ingesting t (result.map fun _ => ())
  | verifying (answer : (Call.count config.index.name).Result) :
      StepTrace config .verifying [.called (.count config.index.name) answer]
        ((answer.mapError Error.service).map fun _ => ())

/-- A journal that starts in the state `state`, goes through these steps and ends with the result.
A step that succeeds makes way for the next one; one that fails is told of, and nothing follows. -/
inductive Walk (config : Config) :
    (state : State) → (steps : List State) → List Entry → Except Error Report → Prop where
  | done {state : State} {part : List Entry} (hpart : Unmarked part) (hcalls : contacts part = [])
      (report : Report) :
      Walk config state [] (part ++ [.logged (.stateChanged state .done)]) (.ok report)
  | failed {state step : State} {steps : List State} {part : List Entry} {e : Error}
      (hpart : Unmarked part) (hwork : StepTrace config step (contacts part) (.error e)) :
      Walk config state (step :: steps)
        (.logged (.stateChanged state step) :: (part ++
          [.logged (.stateChanged step .failed), .logged (.runFailed step e.message)]))
        (.error e)
  | passed {state step : State} {steps : List State} {part rest : List Entry}
      {result : Except Error Report} (hpart : Unmarked part)
      (hwork : StepTrace config step (contacts part) (.ok ()))
      (hrest : Walk config step steps rest result) :
      Walk config state (step :: steps) (.logged (.stateChanged state step) :: (part ++ rest))
        result

/-- One step: it is entered and does its work; if that succeeds, the walk goes on from there. -/
theorem walk_step {α : Type} {config : Config} {state step : State} {steps : List State}
    {p : Procedure Error α} {f : α → Procedure StepFailure Report} {journal : List Entry}
    {outcome : Except StepFailure Report} (hp : p.Discreet isHeading)
    (hwork : ∀ part result, p.Admits part result →
      StepTrace config step (contacts part) (result.map fun _ => ()))
    (hf : ∀ a rest, (f a).Admits rest outcome →
      Walk config step steps (rest ++ ending outcome) (outcome.mapError StepFailure.error))
    (h : (enter state step >>= fun _ => during step p >>= f).Admits journal outcome) :
    Walk config state (step :: steps) (journal ++ ending outcome)
      (outcome.mapError StepFailure.error) := by
  have hmarks : p.Discreet isMark := hp.mono fun _ => isHeading_of_isMark
  rw [admits_enter_bind] at h
  obtain ⟨_, rfl, hwhole⟩ := h
  rw [admits_during_bind] at hwhole
  rcases hwhole with ⟨e, hfail, rfl⟩ | ⟨a, part, rest, rfl, hok, hrest⟩
  -- A step that fails is the last, and the ending tells of it.
  · exact .failed (hmarks.unmarked hfail) (hwork _ _ hfail)
  · rw [List.cons_append, List.append_assoc]
    exact .passed (hmarks.unmarked hok) (hwork _ _ hok) (hf a rest hrest)

theorem walk_of_steps {config : Config} {start : State} {journal : List Entry}
    {outcome : Except StepFailure Report} (h : (steps config start).Admits journal outcome) :
    Walk config start order (journal ++ ending outcome) (outcome.mapError StepFailure.error) := by
  unfold steps at h
  -- Each step leaves two things to say: what its work was, and how the walk goes on.
  refine walk_step (discreet_awaitService _) (fun part result hpart => ?_)
    (fun attempts _ hreset => ?_) h
  · exact .probing (Readiness.awaitService_trace hpart)
  refine walk_step (discreet_reset _) (fun part result hpart => ?_) (fun _ _ hfetch => ?_) hreset
  · have hresult : (result.map fun _ => ()) = result := by cases result <;> rfl
    rw [hresult]
    exact .initializing (reset_trace hpart)
  refine walk_step discreet_records (fun part result hpart => ?_) (fun dataset _ hinsert => ?_)
    hfetch
  · obtain rfl := admits_records.mp hpart
    exact .fetching result
  refine walk_step (discreet_insert ..) (fun part result hpart => ?_) (fun sent _ hcount => ?_)
    hinsert
  · exact .ingesting (insert_trace hpart)
  refine walk_step ((discreet_perform _).mapError _) (fun part result hpart => ?_)
    (fun counted rest hend => ?_) hcount
  · obtain ⟨answer, hanswer, rfl⟩ := admits_mapError.mp hpart
    obtain rfl := admits_perform.mp hanswer
    exact .verifying answer
  -- What is left is to say that the count differs, if it does.
  have hplain : Unmarked rest ∧ contacts rest = [] ∧ ∃ report, outcome = .ok report := by
    split at hend
    · obtain ⟨_, rfl, rfl, rfl⟩ := hend
      exact ⟨rfl, rfl, _, rfl⟩
    · obtain ⟨rfl, rfl⟩ := hend
      exact ⟨rfl, rfl, _, rfl⟩
  obtain ⟨hpart, hcalls, report, rfl⟩ := hplain
  exact .done hpart hcalls report

/-- The own journal of a load, after it has named its source, is a walk through its steps. -/
theorem walk_of_load {config : Config} {name : String} {start : State} {journal : List Entry}
    {result : Except Error Report} (h : (load config name start).Admits journal result) :
    ∃ rest, journal = .logged (.loadStarted name) :: rest ∧
      Walk config start order rest result := by
  rw [load_eq, admits_note_bind] at h
  obtain ⟨rest, rfl, hload⟩ := h
  refine ⟨rest, rfl, ?_⟩
  rcases admits_bind.mp hload with ⟨e, hattempt, -⟩ | ⟨outcome, work, last, rfl, hattempt, hlast⟩
  · obtain ⟨_, -, hok⟩ := admits_attempt.mp hattempt
    cases hok
  obtain ⟨_, hsteps, ⟨⟩⟩ := admits_attempt.mp hattempt
  have hwalk := walk_of_steps hsteps
  -- What the load logs in the end is what its steps lead to.
  cases outcome with
  | ok report =>
    obtain ⟨_, rfl, rfl, rfl⟩ := hlast
    exact hwalk
  | error failure =>
    obtain ⟨_, rfl, _, rfl, rfl, rfl⟩ := hlast
    exact hwalk

/-! ## What a walk leaves in the log -/

/-- The failure that an event tells of: the step, and the message. -/
def failure? : Event → Option (State × String)
  | .runFailed step message => some (step, message)
  | _ => none

theorem failure?_of_not_isMark (event : Event) (h : isMark event = false) :
    failure? event = none := by
  cases event <;> first | rfl | cases h

/-- The changes of state that a journal logs. -/
def changes (journal : List Entry) : List (State × State) :=
  (journal.filterMap Entry.event?).filterMap transition?

/-- The failures that a journal logs. -/
def failures (journal : List Entry) : List (State × String) :=
  (journal.filterMap Entry.event?).filterMap failure?

/-- From one state through others, each pair taking up where the one before it ends. -/
def links : State → List State → List (State × State)
  | _, [] => []
  | state, next :: rest => (state, next) :: links next rest

theorem changes_append (a b : List Entry) : changes (a ++ b) = changes a ++ changes b := by
  unfold changes
  rw [List.filterMap_append, List.filterMap_append]

theorem failures_append (a b : List Entry) : failures (a ++ b) = failures a ++ failures b := by
  unfold failures
  rw [List.filterMap_append, List.filterMap_append]

theorem Unmarked.nothing {journal : List Entry} (h : Unmarked journal) :
    changes journal = [] ∧ failures journal = [] := by
  refine ⟨transitions_of_marks h, ?_⟩
  rw [failures, ← filterMap_marks failure?_of_not_isMark, h]
  rfl

/-- What the log of a walk says: which of its steps were entered, and where it failed, if it did. -/
structure Tells (state : State) (steps : List State) (journal : List Entry)
    (result : Except Error Report) (entered : List State) : Prop where
  /-- The first steps were entered, in their order. -/
  first : entered <+: steps
  nonempty : steps ≠ [] → entered ≠ []
  complete : ∀ report, result = .ok report → entered = steps
  /-- The last change leads to the final state. -/
  changes : changes journal = links state (entered ++ [finalState result])
  success : ∀ report, result = .ok report → failures journal = []
  /-- The failure is told of once, in the end, after the change to the final state. -/
  failure : ∀ e, result = .error e → ∃ step, entered.getLast? = some step ∧
    failures journal = [(step, e.message)] ∧
    [.logged (.stateChanged step .failed), .logged (.runFailed step e.message)] <:+ journal

theorem Tells.mem_of_failure {state : State} {steps entered : List State} {journal : List Entry}
    {result : Except Error Report} (h : Tells state steps journal result entered)
    {failure : State × String} (hfailure : failure ∈ failures journal) : failure.1 ∈ steps := by
  cases result with
  | ok report =>
    rw [h.success report rfl] at hfailure
    cases hfailure
  | error e =>
    obtain ⟨step, hlast, honly, -⟩ := h.failure e rfl
    rw [honly, List.mem_singleton] at hfailure
    subst hfailure
    exact h.first.subset (List.mem_of_getLast? hlast)

/-- Work without marks before a walk changes nothing. -/
theorem Tells.after {state : State} {steps entered : List State} {part journal : List Entry}
    {result : Except Error Report} (hpart : Unmarked part)
    (h : Tells state steps journal result entered) :
    Tells state steps (part ++ journal) result entered := by
  obtain ⟨hchanges, hfailures⟩ := hpart.nothing
  refine { h with changes := ?_, success := fun report hok => ?_, failure := fun e herror => ?_ }
  · rw [changes_append, hchanges, h.changes]
    rfl
  · rw [failures_append, hfailures, h.success report hok]
    rfl
  · obtain ⟨step, hlast, hfailure, hend⟩ := h.failure e herror
    refine ⟨step, hlast, ?_, hend.trans (List.suffix_append ..)⟩
    rw [failures_append, hfailures, hfailure]
    rfl

/-- A walk that goes on from a step can start one step earlier. -/
theorem Tells.entering {state step : State} {steps entered : List State} {journal : List Entry}
    {result : Except Error Report} (h : Tells step steps journal result entered) :
    Tells state (step :: steps) (.logged (.stateChanged state step) :: journal) result
      (step :: entered) where
  first := List.cons_prefix_cons.mpr ⟨rfl, h.first⟩
  nonempty _ := List.cons_ne_nil _ _
  complete report hok := congrArg _ (h.complete report hok)
  changes := congrArg ((state, step) :: ·) h.changes
  success := h.success
  failure e herror := by
    obtain ⟨last, hlast, hfailure, hend⟩ := h.failure e herror
    refine ⟨last, ?_, hfailure, hend.trans (List.suffix_cons ..)⟩
    rw [List.getLast?_cons, hlast]
    rfl

theorem Walk.tells {config : Config} {state : State} {steps : List State} {journal : List Entry}
    {result : Except Error Report} (h : Walk config state steps journal result) :
    ∃ entered, Tells state steps journal result entered := by
  induction h with
  | done hpart hcalls report =>
    exact ⟨[], Tells.after hpart ⟨List.nil_prefix, fun hne => absurd rfl hne, fun _ _ => rfl, rfl,
      fun _ _ => rfl, nofun⟩⟩
  | @failed state step steps part e hpart hwork =>
    obtain ⟨hchanges, hfailures⟩ := hpart.nothing
    refine ⟨[step], ?_, fun _ => List.cons_ne_nil _ _, nofun, ?_, nofun, ?_⟩
    · exact List.cons_prefix_cons.mpr ⟨rfl, List.nil_prefix⟩
    · show (state, step) :: changes (part ++ _) = _
      rw [changes_append, hchanges]
      rfl
    · rintro _ ⟨⟩
      refine ⟨step, rfl, ?_, List.suffix_append (.logged (.stateChanged state step) :: part) _⟩
      show failures (part ++ _) = _
      rw [failures_append, hfailures]
      rfl
  | passed hpart hwork hrest ih =>
    obtain ⟨entered, htells⟩ := ih
    exact ⟨_, (htells.after hpart).entering⟩

end Reindex.Run
