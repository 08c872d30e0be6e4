import Reindex.Proofs.Finish
import Reindex.Proofs.Trace.Ingest
import Reindex.Proofs.Trace.Readiness
import Reindex.Proofs.Trace.Reset

/-!
# The calls of a load

Which calls and fetches a load makes, in which order, for each way the service and the source may
answer.  `LoadTrace` puts the traces of the steps together: the trace of a step is there only if
every step before it succeeded, and it is the last if it fails.
-/

namespace Reindex.Run

open Search (Call Service)
open Dataset (Source)
open Procedure

/-- The calls and fetches of a load, and how its steps end. -/
inductive LoadTrace (config : Config) : List Entry → Except StepFailure Report → Prop where
  | probing {pings : List Entry} {e : Error}
      (hprobe : ProbeTrace config.readiness pings (.error e)) :
      LoadTrace config pings (.error ⟨.probing, e⟩)
  | initializing {pings calls : List Entry} {attempts : Nat} {e : Error}
      (hprobe : ProbeTrace config.readiness pings (.ok attempts))
      (hreset : ResetTrace config.index calls (.error e)) :
      LoadTrace config (pings ++ calls) (.error ⟨.initializing, e⟩)
  | fetching {pings calls : List Entry} {attempts : Nat}
      (hprobe : ProbeTrace config.readiness pings (.ok attempts))
      (hreset : ResetTrace config.index calls (.ok ())) (e : Error) :
      LoadTrace config (pings ++ (calls ++ [.fetched (.error e)])) (.error ⟨.fetching, e⟩)
  | ingesting {pings calls bulks : List Entry} {attempts : Nat} {records : List Record} {e : Error}
      (hprobe : ProbeTrace config.readiness pings (.ok attempts))
      (hreset : ResetTrace config.index calls (.ok ()))
      (hinsert : InsertTrace config.ingest config.index.name records bulks (.error e)) :
      LoadTrace config (pings ++ (calls ++ .fetched (.ok records) :: bulks))
        (.error ⟨.ingesting, e⟩)
  | verifying {pings calls bulks : List Entry} {attempts : Nat} {records : List Record}
      {sent : IngestSummary}
      (hprobe : ProbeTrace config.readiness pings (.ok attempts))
      (hreset : ResetTrace config.index calls (.ok ()))
      (hinsert : InsertTrace config.ingest config.index.name records bulks (.ok sent))
      (e : Search.Error) :
      LoadTrace config
        (pings ++ (calls ++ .fetched (.ok records) ::
          (bulks ++ [.called (.count config.index.name) (.error e)])))
        (.error ⟨.verifying, .service e⟩)
  | done {pings calls bulks : List Entry} {attempts : Nat} {records : List Record}
      {sent : IngestSummary}
      (hprobe : ProbeTrace config.readiness pings (.ok attempts))
      (hreset : ResetTrace config.index calls (.ok ()))
      (hinsert : InsertTrace config.ingest config.index.name records bulks (.ok sent))
      (counted : Nat) :
      LoadTrace config
        (pings ++ (calls ++ .fetched (.ok records) ::
          (bulks ++ [.called (.count config.index.name) (.ok counted)])))
        (.ok ⟨attempts, records.length, sent.submitted, sent.rejected, counted⟩)

/-! ## What the code of a load admits -/

theorem admits_enter_bind {ε β : Type} {old new : State} {f : Unit → Procedure ε β}
    {journal : List Entry} {r : Except ε β} :
    (enter old new >>= f).Admits journal r ↔
      ∃ rest, journal = .logged (.stateChanged old new) :: rest ∧ (f ()).Admits rest r := Iff.rfl

/-- The work of a step fails, and that is all, or its result leads on. -/
theorem admits_during_bind {α β : Type} {step : State} {p : Procedure Error α}
    {f : α → Procedure StepFailure β} {journal : List Entry} {r : Except StepFailure β} :
    (during step p >>= f).Admits journal r ↔
      (∃ e, p.Admits journal (.error e) ∧ r = .error ⟨step, e⟩) ∨
        ∃ a first second, journal = first ++ second ∧ p.Admits first (.ok a) ∧
          (f a).Admits second r :=
  admits_mapError_bind

/-- The journal of the steps of a load that starts in the state `start`.  Each step is announced,
and then it does its work; if that fails, it is the last. -/
inductive StepsJournal (config : Config) (start : State) :
    List Entry → Except StepFailure Report → Prop where
  | probing {pings : List Entry} {e : Error}
      (hprobe : config.readiness.awaitService.Admits pings (.error e)) :
      StepsJournal config start (.logged (.stateChanged start .probing) :: pings)
        (.error ⟨.probing, e⟩)
  | initializing {pings calls : List Entry} {attempts : Nat} {e : Error}
      (hprobe : config.readiness.awaitService.Admits pings (.ok attempts))
      (hreset : (reset config.index).Admits calls (.error e)) :
      StepsJournal config start
        (.logged (.stateChanged start .probing) :: (pings ++
          .logged (.stateChanged .probing .initializing) :: calls))
        (.error ⟨.initializing, e⟩)
  | fetching {pings calls : List Entry} {attempts : Nat}
      (hprobe : config.readiness.awaitService.Admits pings (.ok attempts))
      (hreset : (reset config.index).Admits calls (.ok ())) (e : Error) :
      StepsJournal config start
        (.logged (.stateChanged start .probing) :: (pings ++
          .logged (.stateChanged .probing .initializing) :: (calls ++
            [.logged (.stateChanged .initializing .fetching), .fetched (.error e)])))
        (.error ⟨.fetching, e⟩)
  | ingesting {pings calls bulks : List Entry} {attempts : Nat} {records : List Record} {e : Error}
      (hprobe : config.readiness.awaitService.Admits pings (.ok attempts))
      (hreset : (reset config.index).Admits calls (.ok ()))
      (hinsert : (config.ingest.insert config.index.name records).Admits bulks (.error e)) :
      StepsJournal config start
        (.logged (.stateChanged start .probing) :: (pings ++
          .logged (.stateChanged .probing .initializing) :: (calls ++
            .logged (.stateChanged .initializing .fetching) :: .fetched (.ok records) ::
              .logged (.stateChanged .fetching .ingesting) :: bulks)))
        (.error ⟨.ingesting, e⟩)
  | verifying {pings calls bulks : List Entry} {attempts : Nat} {records : List Record}
      {sent : IngestSummary}
      (hprobe : config.readiness.awaitService.Admits pings (.ok attempts))
      (hreset : (reset config.index).Admits calls (.ok ()))
      (hinsert : (config.ingest.insert config.index.name records).Admits bulks (.ok sent))
      (e : Search.Error) :
      StepsJournal config start
        (.logged (.stateChanged start .probing) :: (pings ++
          .logged (.stateChanged .probing .initializing) :: (calls ++
            .logged (.stateChanged .initializing .fetching) :: .fetched (.ok records) ::
              .logged (.stateChanged .fetching .ingesting) :: (bulks ++
                [.logged (.stateChanged .ingesting .verifying),
                  .called (.count config.index.name) (.error e)]))))
        (.error ⟨.verifying, .service e⟩)
  | done {pings calls bulks : List Entry} {attempts : Nat} {records : List Record}
      {sent : IngestSummary}
      (hprobe : config.readiness.awaitService.Admits pings (.ok attempts))
      (hreset : (reset config.index).Admits calls (.ok ()))
      (hinsert : (config.ingest.insert config.index.name records).Admits bulks (.ok sent))
      (counted : Nat) :
      StepsJournal config start
        (.logged (.stateChanged start .probing) :: (pings ++
          .logged (.stateChanged .probing .initializing) :: (calls ++
            .logged (.stateChanged .initializing .fetching) :: .fetched (.ok records) ::
              .logged (.stateChanged .fetching .ingesting) :: (bulks ++
                .logged (.stateChanged .ingesting .verifying) ::
                  .called (.count config.index.name) (.ok counted) ::
                    if counted ≠ records.length then
                      [.logged (.countDiffers records.length counted sent.rejected)]
                    else []))))
        (.ok ⟨attempts, records.length, sent.submitted, sent.rejected, counted⟩)

theorem steps_journal {config : Config} {start : State} {journal : List Entry}
    {outcome : Except StepFailure Report} (h : (steps config start).Admits journal outcome) :
    StepsJournal config start journal outcome := by
  unfold steps at h
  rw [admits_enter_bind] at h
  obtain ⟨_, rfl, h⟩ := h
  -- Each step is peeled off with the entry that announces it; it fails, or the next one follows.
  rw [admits_during_bind] at h
  rcases h with ⟨e, hprobe, rfl⟩ | ⟨attempts, pings, _, rfl, hprobe, h⟩
  · exact .probing hprobe
  rw [admits_enter_bind] at h
  obtain ⟨_, rfl, h⟩ := h
  rw [admits_during_bind] at h
  rcases h with ⟨e, hreset, rfl⟩ | ⟨_, calls, _, rfl, hreset, h⟩
  · exact .initializing hprobe hreset
  rw [admits_enter_bind] at h
  obtain ⟨_, rfl, h⟩ := h
  rw [admits_during_bind] at h
  rcases h with ⟨e, hfetch, rfl⟩ | ⟨dataset, fetch, _, rfl, hfetch, h⟩
  · obtain rfl := admits_records.mp hfetch
    exact .fetching hprobe hreset e
  obtain rfl := admits_records.mp hfetch
  rw [admits_enter_bind] at h
  obtain ⟨_, rfl, h⟩ := h
  rw [admits_during_bind] at h
  rcases h with ⟨e, hinsert, rfl⟩ | ⟨sent, bulks, _, rfl, hinsert, h⟩
  · exact .ingesting hprobe hreset hinsert
  rw [admits_enter_bind] at h
  obtain ⟨_, rfl, h⟩ := h
  rw [admits_during_bind] at h
  rcases h with ⟨e, hcount, rfl⟩ | ⟨counted, count, _, rfl, hcount, h⟩
  · rw [admits_mapError_error] at hcount
    obtain ⟨e, hcount, rfl⟩ := hcount
    obtain rfl := admits_perform.mp hcount
    exact .verifying hprobe hreset hinsert e
  · -- A count that differs is only logged.
    obtain rfl := admits_perform.mp (admits_mapError_ok.mp hcount)
    replace h := admits_note_if.mp h
    obtain ⟨_, rfl, rfl, rfl⟩ := h
    rw [List.append_nil]
    exact .done hprobe hreset hinsert counted

theorem steps_trace {config : Config} {start : State} {journal : List Entry}
    {outcome : Except StepFailure Report} (h : (steps config start).Admits journal outcome) :
    LoadTrace config (contacts journal) outcome := by
  cases steps_journal h with
  | probing hprobe => simpa using .probing (Readiness.awaitService_trace hprobe)
  | initializing hprobe hreset =>
    simpa using .initializing (Readiness.awaitService_trace hprobe) (reset_trace hreset)
  | fetching hprobe hreset e =>
    simpa using .fetching (Readiness.awaitService_trace hprobe) (reset_trace hreset) e
  | ingesting hprobe hreset hinsert =>
    simpa using .ingesting (Readiness.awaitService_trace hprobe) (reset_trace hreset)
      (insert_trace hinsert)
  | verifying hprobe hreset hinsert e =>
    simpa using .verifying (Readiness.awaitService_trace hprobe) (reset_trace hreset)
      (insert_trace hinsert) e
  | done hprobe hreset hinsert counted =>
    simpa using .done (Readiness.awaitService_trace hprobe) (reset_trace hreset)
      (insert_trace hinsert) counted

/-- A run of a load makes the calls and fetches of a trace of it that ends as its steps do, with the
answers that its service and its source give. -/
theorem loadTrace_of_run {σ : Type} (service : Service σ) (source : Source σ) (config : Config)
    (name : String) (start : State) (s : σ) :
    let run := (load config name start).run service source s
    let work := (steps config start).run service source s
    LoadTrace config run.contacts work.result ∧
      run.result = work.result.mapError StepFailure.error ∧
      Replays service source s run.contacts run.state := by
  intro run work
  obtain ⟨journal, hadmits, hreplays, hcontacts⟩ := exists_admits service source
    (steps config start) s
  have hrun : run.contacts = contacts journal := (contacts_run_load ..).trans hcontacts
  rw [hrun]
  refine ⟨steps_trace hadmits, ?_, ?_⟩
  · exact congrArg Outcome.result (run_load config name start s)
  · rw [show run.state = work.state from congrArg Outcome.state (run_load config name start s)]
    exact hreplays.contacts

theorem exists_loadTrace {σ : Type} (service : Service σ) (source : Source σ) (config : Config)
    (name : String) (start : State) (s : σ) :
    let run := (load config name start).run service source s
    (∃ outcome, LoadTrace config run.contacts outcome ∧
        run.result = outcome.mapError StepFailure.error) ∧
      Replays service source s run.contacts run.state := by
  intro run
  obtain ⟨htrace, hresult, hreplays⟩ := loadTrace_of_run service source config name start s
  exact ⟨⟨_, htrace, hresult⟩, hreplays⟩

end Reindex.Run
