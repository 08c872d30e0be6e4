import Reindex.Proofs.Alike
import Reindex.Proofs.Procedure
import Reindex.Search.Client
import Reindex.Search.Engine

/-!
# The marks of a load

A load marks in its log where it changes its state and where it fails.  A service or a source is
quiet if nothing that it logs itself is such a mark.  Only the load and its source tell of the
dataset, so what a client logs about its calls is neither a mark nor about the dataset.
-/

namespace Reindex.Run

open Search (Call Client Engine Service)
open Dataset (Source)

/-- Does the event tell that a load changes its state, or that it failed? -/
def isMark : Event → Bool
  | .stateChanged .. | .runFailed .. => true
  | _ => false

/-- Does the event tell where the dataset comes from, or how it came? -/
def isOfDataset : Event → Bool
  | .loadStarted _ | .downloading | .downloaded _ | .datasetParsed _ | .readingFile _ => true
  | _ => false

/-- Does the event tell of the load as a whole, and not of one of its steps or calls? -/
def isHeading (event : Event) : Bool := isMark event || isOfDataset event

theorem isHeading_of_isMark {event : Event} (h : isMark event = true) : isHeading event = true :=
  Bool.or_eq_true_iff.mpr (.inl h)

theorem isHeading_of_isOfDataset {event : Event} (h : isOfDataset event = true) :
    isHeading event = true :=
  Bool.or_eq_true_iff.mpr (.inr h)

/-- The events that tell of the course of a load. -/
def marks (events : List Event) : List Event := events.filter isMark

theorem marks_of_headings {events : List Event} (h : events.filter isHeading = []) :
    marks events = [] := by
  rw [List.filter_eq_nil_iff] at h
  exact List.filter_eq_nil_iff.mpr fun event hevent hmark =>
    h event hevent (isHeading_of_isMark hmark)

theorem marks_append (a b : List Event) : marks (a ++ b) = marks a ++ marks b :=
  List.filter_append ..

/-- What only the marks decide can be read off them. -/
theorem filterMap_marks {α : Type} {f : Event → Option α}
    (hf : ∀ event, isMark event = false → f event = none) (events : List Event) :
    (marks events).filterMap f = events.filterMap f :=
  filterMap_filter_of_none hf events

theorem transition?_of_not_isMark (event : Event) (h : isMark event = false) :
    transition? event = none := by
  cases event <;> first | rfl | cases h

theorem transitions_of_marks {events : List Event} (h : marks events = []) :
    events.filterMap transition? = [] := by
  rw [← filterMap_marks transition?_of_not_isMark, h]
  rfl

/-! ## Quiet services and sources -/

/-- The service logs none of the marks of a load. -/
def QuietService {σ : Type} (service : Service σ) : Prop :=
  ∀ c s, marks (service.perform c s).events = []

/-- The source logs none of the marks of a load. -/
def QuietSource {σ : Type} (source : Source σ) : Prop := ∀ s, marks (source.fetch s).events = []

/-- What a quiet service and a quiet source log has no part in the marks of a run. -/
theorem marks_ownJournal {σ ε α : Type} {service : Service σ} {source : Source σ}
    (hservice : QuietService service) (hsource : QuietSource source) (p : Procedure ε α) (s : σ) :
    marks (p.run service source s).events =
      marks ((p.ownJournal service source s).filterMap Entry.event?) := by
  induction p generalizing s with
  | done result => rfl
  | call c next ih =>
    show marks ((((service.perform c s).events.map Entry.logged) ++ _).filterMap _) = _
    rw [List.filterMap_append, Outcome.filterMap_event?_logged, marks_append, hservice]
    exact ih _ _
  | fetch next ih =>
    show marks ((((source.fetch s).events.map Entry.logged) ++ _).filterMap _) = _
    rw [List.filterMap_append, Outcome.filterMap_event?_logged, marks_append, hsource]
    exact ih _ _
  | pause ms next ih => exact ih s
  | log event next ih =>
    show marks ([event] ++ _) = marks ([event] ++ _)
    rw [marks_append, marks_append]
    exact congrArg _ (ih s)

theorem headings_conclude (url : Url) (answer : Except Http.Failure Http.Response) (c : Call) :
    (Search.conclude url answer c).2.filter isHeading = [] := by
  cases answer with
  | error f => rfl
  | ok r =>
    unfold Search.conclude Search.concludeAnswer
    cases c with
    | ping | delete | create | count =>
      dsimp only
      split <;> rfl
    | «exists» =>
      dsimp only
      split
      · rfl
      · split <;> rfl
    | bulk =>
      dsimp only
      unfold Search.concludeBulk
      split
      · split
        · rfl
        · dsimp only
          split <;> rfl
      · rfl

theorem headings_perform {τ : Type} (client : Client) (server : Http.Server τ) (c : Call)
    (x : Http.Exchange τ) :
    ((client.service server).perform c x).events.filter isHeading = [] := by
  unfold Client.service
  dsimp only
  split
  · rfl
  split
  · rfl
  · exact headings_conclude ..

theorem quiet_client {τ : Type} (client : Client) (server : Http.Server τ) :
    QuietService (client.service server) :=
  fun c x => marks_of_headings (headings_perform client server c x)

theorem quiet_engine : QuietService Engine.service := fun _ _ => rfl

theorem quiet_constant {σ : Type} (result : Except Run.Error (List Record)) :
    QuietSource (Source.constant result : Source σ) := fun _ => rfl

theorem quiet_ofLocation {τ : Type} (read : Files.Reader) (server : Http.Server τ)
    (location : Dataset.Location) : QuietSource (Source.ofLocation read server location) := by
  intro x
  have hbody : ∀ body, marks (Dataset.ofBody body).2 = [] := by
    intro body
    unfold Dataset.ofBody
    split <;> rfl
  have hanswer : ∀ url answer, marks (Dataset.ofAnswer url answer).2 = [] := by
    intro url answer
    unfold Dataset.ofAnswer
    split
    · rfl
    split
    · split
      · exact hbody _
      · rfl
    · rfl
  cases location with
  | file path => rfl
  | web url => exact hanswer url _

end Reindex.Run
