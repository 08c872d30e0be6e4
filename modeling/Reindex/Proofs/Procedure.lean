import Reindex.Run.Procedure

/-!
# The journals of procedures

`Procedure.Admits` says which journals a procedure can keep and how it ends after each of them,
whatever the service and the source answer.  A run keeps such a journal (`exists_admits`), with the
answers that its service and source give in their states (`Replays`).  What a procedure does is
therefore proved of the journals that it admits, once for all services.

The actions of a journal are its calls, fetches and pauses; its contacts are the calls and fetches
alone.
-/

namespace Reindex.Run

open Search (Call Service)
open Dataset (Source)

namespace Entry

/-- Is the entry about a call or a fetch? -/
def isContact : Entry → Bool
  | .called .. | .fetched _ => true
  | _ => false

/-- Is the entry about something that was done, and not about an event? -/
def isAction : Entry → Bool
  | .logged _ => false
  | _ => true

/-- Does the entry tell of a call or a fetch that failed? -/
def failed : Entry → Bool
  | .called _ (.error _) | .fetched (.error _) => true
  | _ => false

end Entry

/-- The calls and fetches of a journal. -/
def contacts (journal : List Entry) : List Entry := journal.filter Entry.isContact

@[simp] theorem contacts_nil : contacts [] = [] := rfl

@[simp] theorem contacts_append (a b : List Entry) : contacts (a ++ b) = contacts a ++ contacts b :=
  List.filter_append ..

@[simp] theorem contacts_called (c : Call) (result : c.Result) (t : List Entry) :
    contacts (.called c result :: t) = .called c result :: contacts t := rfl

@[simp] theorem contacts_fetched (result : Except Run.Error (List Record)) (t : List Entry) :
    contacts (.fetched result :: t) = .fetched result :: contacts t := rfl

@[simp] theorem contacts_paused (ms : Nat) (t : List Entry) :
    contacts (.paused ms :: t) = contacts t := rfl

@[simp] theorem contacts_logged (event : Event) (t : List Entry) :
    contacts (.logged event :: t) = contacts t := rfl

@[simp] theorem contacts_ite (c : Prop) [Decidable c] (a b : List Entry) :
    contacts (if c then a else b) = if c then contacts a else contacts b := apply_ite ..

theorem called_mem_contacts {c : Call} {result : c.Result} {journal : List Entry}
    (h : .called c result ∈ journal) : .called c result ∈ contacts journal :=
  List.mem_filter.mpr ⟨h, rfl⟩

/-- The calls and fetches of a run. -/
def Outcome.contacts {σ ε α : Type} (o : Outcome σ ε α) : List Entry := Run.contacts o.journal

/-- What is only found in some elements of a list is found when the others are left out. -/
theorem filterMap_filter_of_none {α β : Type} {f : α → Option β} {p : α → Bool}
    (hf : ∀ a, p a = false → f a = none) (t : List α) :
    (t.filter p).filterMap f = t.filterMap f := by
  rw [List.filterMap_filter]
  congr 1
  funext a
  cases hp : p a with
  | true => exact if_pos rfl
  | false => exact (if_neg Bool.false_ne_true).trans (hf a hp).symm

/-- What is only found in contacts is found in the contacts of a journal. -/
theorem filterMap_contacts {β : Type} {f : Entry → Option β}
    (hf : ∀ entry : Entry, entry.isContact = false → f entry = none) (journal : List Entry) :
    (contacts journal).filterMap f = journal.filterMap f :=
  filterMap_filter_of_none hf journal

/-- The calls of a journal are those of its contacts. -/
theorem filterMap_call?_contacts (journal : List Entry) :
    (contacts journal).filterMap Entry.call? = journal.filterMap Entry.call? := by
  refine filterMap_contacts (fun entry hentry => ?_) journal
  cases entry with
  | called | fetched => cases hentry
  | paused | logged => rfl

/-- The calls, fetches and pauses of a journal. -/
def actions (journal : List Entry) : List Entry := journal.filter Entry.isAction

@[simp] theorem actions_nil : actions [] = [] := rfl

@[simp] theorem actions_append (a b : List Entry) : actions (a ++ b) = actions a ++ actions b :=
  List.filter_append ..

@[simp] theorem actions_called (c : Call) (result : c.Result) (t : List Entry) :
    actions (.called c result :: t) = .called c result :: actions t := rfl

@[simp] theorem actions_fetched (result : Except Run.Error (List Record)) (t : List Entry) :
    actions (.fetched result :: t) = .fetched result :: actions t := rfl

@[simp] theorem actions_paused (ms : Nat) (t : List Entry) :
    actions (.paused ms :: t) = .paused ms :: actions t := rfl

@[simp] theorem actions_logged (event : Event) (t : List Entry) :
    actions (.logged event :: t) = actions t := rfl

@[simp] theorem actions_map_logged (events : List Event) :
    actions (events.map .logged) = [] := by
  induction events with
  | nil => rfl
  | cons event rest ih => rw [List.map_cons, actions_logged, ih]

@[simp] theorem actions_ite (c : Prop) [Decidable c] (a b : List Entry) :
    actions (if c then a else b) = if c then actions a else actions b := apply_ite ..

/-- The calls and fetches are among the actions. -/
theorem contacts_actions (journal : List Entry) :
    contacts (actions journal) = contacts journal := by
  unfold contacts actions
  rw [List.filter_filter]
  refine List.filter_congr fun entry _ => ?_
  cases entry <;> rfl

/-- What is not found in events is found in the actions of a journal. -/
theorem filterMap_actions {β : Type} {f : Entry → Option β} (hf : ∀ event, f (.logged event) = none)
    (journal : List Entry) : (actions journal).filterMap f = journal.filterMap f := by
  refine filterMap_filter_of_none (fun entry hentry => ?_) journal
  cases entry with
  | called | fetched | paused => cases hentry
  | logged event => exact hf event

/-- The calls, fetches and pauses of a run. -/
def Outcome.actions {σ ε α : Type} (o : Outcome σ ε α) : List Entry := Run.actions o.journal

namespace Procedure

variable {ε ε' α β : Type}

/-! ## Which journals a procedure admits -/

/-- The procedure can take the steps of `journal`, one after another, and end with `r`. -/
def Admits : Procedure ε α → List Entry → Except ε α → Prop
  | .done result, journal, r => journal = [] ∧ r = result
  | .call c next, journal, r =>
    ∃ answer rest, journal = .called c answer :: rest ∧ (next answer).Admits rest r
  | .fetch next, journal, r =>
    ∃ answer rest, journal = .fetched answer :: rest ∧ (next answer).Admits rest r
  | .pause ms next, journal, r => ∃ rest, journal = .paused ms :: rest ∧ next.Admits rest r
  | .log event next, journal, r => ∃ rest, journal = .logged event :: rest ∧ next.Admits rest r

/-- A journal with one entry before it is cut in two where the journal is. -/
private theorem exists_cons_cut {ι γ : Type} (entry : ι → Entry) (A : ι → List Entry → γ → Prop)
    (B : γ → List Entry → Prop) {journal : List Entry} :
    (∃ i rest, journal = entry i :: rest ∧
        ∃ first middle second, rest = first ++ second ∧ A i first middle ∧ B middle second) ↔
      ∃ first middle second, journal = first ++ second ∧
        (∃ i rest, first = entry i :: rest ∧ A i rest middle) ∧ B middle second := by
  constructor
  · rintro ⟨i, _, rfl, first, middle, second, rfl, hfirst, hsecond⟩
    exact ⟨entry i :: first, middle, second, rfl, ⟨i, first, rfl, hfirst⟩, hsecond⟩
  · rintro ⟨_, middle, second, rfl, ⟨i, first, rfl, hfirst⟩, hsecond⟩
    exact ⟨i, first ++ second, rfl, first, middle, second, rfl, hfirst, hsecond⟩

/-- What goes on after `p` starts with a journal and a result of `p`. -/
theorem admits_andThen {p : Procedure ε α} {next : Except ε α → Procedure ε' β}
    {journal : List Entry} {r : Except ε' β} :
    (p.andThen next).Admits journal r ↔
      ∃ first middle second, journal = first ++ second ∧ p.Admits first middle ∧
        (next middle).Admits second r := by
  induction p generalizing journal with
  | done result =>
    constructor
    · intro h
      exact ⟨[], result, journal, rfl, ⟨rfl, rfl⟩, h⟩
    · rintro ⟨first, middle, second, rfl, ⟨rfl, rfl⟩, h⟩
      exact h
  -- Every other node puts its own entry in front of the first part.
  | call c rest ih =>
    simp only [andThen, Admits, ih]
    exact exists_cons_cut ..
  | fetch rest ih =>
    simp only [andThen, Admits, ih]
    exact exists_cons_cut ..
  | pause ms rest ih =>
    simp only [andThen, Admits, ih]
    simpa only [exists_const] using exists_cons_cut (fun _ : Unit => .paused ms)
      (fun _ => rest.Admits) (fun middle second => (next middle).Admits second r)
  | log event rest ih =>
    simp only [andThen, Admits, ih]
    simpa only [exists_const] using exists_cons_cut (fun _ : Unit => .logged event)
      (fun _ => rest.Admits) (fun middle second => (next middle).Admits second r)

theorem admits_fail {e : ε} {journal : List Entry} {r : Except ε α} :
    (fail e : Procedure ε α).Admits journal r ↔ journal = [] ∧ r = .error e := Iff.rfl

/-- Either `p` fails, and that is all, or `f` goes on with its result. -/
theorem admits_bind {p : Procedure ε α} {f : α → Procedure ε β} {journal : List Entry}
    {r : Except ε β} :
    (p >>= f).Admits journal r ↔
      (∃ e, p.Admits journal (.error e) ∧ r = .error e) ∨
        ∃ a first second, journal = first ++ second ∧ p.Admits first (.ok a) ∧
          (f a).Admits second r := by
  change (p.andThen _).Admits journal r ↔ _
  rw [admits_andThen]
  constructor
  · rintro ⟨first, middle, second, rfl, hfirst, hsecond⟩
    cases middle with
    | ok a => exact .inr ⟨a, first, second, rfl, hfirst, hsecond⟩
    | error e =>
      -- After a failure the second part is empty.
      obtain ⟨rfl, rfl⟩ := admits_fail.mp hsecond
      exact .inl ⟨e, by rwa [List.append_nil], rfl⟩
  · rintro (⟨e, h, rfl⟩ | ⟨a, first, second, rfl, hfirst, hsecond⟩)
    · exact ⟨journal, .error e, [], (List.append_nil _).symm, h, rfl, rfl⟩
    · exact ⟨first, .ok a, second, rfl, hfirst, hsecond⟩

/-- A procedure whose result is only turned into another one. -/
theorem admits_andThen_done {g : Except ε α → Except ε' β} {p : Procedure ε α}
    {journal : List Entry} {r : Except ε' β} :
    (p.andThen fun result => .done (g result)).Admits journal r ↔
      ∃ result, p.Admits journal result ∧ r = g result := by
  rw [admits_andThen]
  constructor
  · rintro ⟨first, result, second, rfl, h, rfl, rfl⟩
    exact ⟨result, by rwa [List.append_nil], rfl⟩
  · rintro ⟨result, h, rfl⟩
    exact ⟨journal, result, [], (List.append_nil _).symm, h, rfl, rfl⟩

theorem admits_mapError {f : ε → ε'} {p : Procedure ε α} {journal : List Entry}
    {r : Except ε' α} :
    (p.mapError f).Admits journal r ↔
      ∃ result, p.Admits journal result ∧ r = result.mapError f :=
  admits_andThen_done

theorem admits_attempt {p : Procedure ε α} {journal : List Entry} {r : Except ε' (Except ε α)} :
    (p.attempt : Procedure ε' _).Admits journal r ↔
      ∃ result, p.Admits journal result ∧ r = .ok result :=
  admits_andThen_done

theorem admits_mapError_ok {f : ε → ε'} {p : Procedure ε α} {journal : List Entry} {a : α} :
    (p.mapError f).Admits journal (.ok a) ↔ p.Admits journal (.ok a) := by
  rw [admits_mapError]
  constructor
  · rintro ⟨_ | a, h, hresult⟩
    · cases hresult
    · cases hresult
      exact h
  · intro h
    exact ⟨_, h, rfl⟩

theorem admits_mapError_error {f : ε → ε'} {p : Procedure ε α} {journal : List Entry} {e' : ε'} :
    (p.mapError f).Admits journal (.error e') ↔ ∃ e, p.Admits journal (.error e) ∧ e' = f e := by
  rw [admits_mapError]
  constructor
  · rintro ⟨e | _, h, hresult⟩
    · cases hresult
      exact ⟨e, h, rfl⟩
    · cases hresult
  · rintro ⟨e, h, rfl⟩
    exact ⟨_, h, rfl⟩

/-- Either `p` fails, and that is all, or `g` goes on with its result. -/
theorem admits_mapError_bind {f : ε → ε'} {p : Procedure ε α} {g : α → Procedure ε' β}
    {journal : List Entry} {r : Except ε' β} :
    (p.mapError f >>= g).Admits journal r ↔
      (∃ e, p.Admits journal (.error e) ∧ r = .error (f e)) ∨
        ∃ a first second, journal = first ++ second ∧ p.Admits first (.ok a) ∧
          (g a).Admits second r := by
  simp only [admits_bind, admits_mapError_ok, admits_mapError_error]
  refine or_congr_left ⟨?_, ?_⟩
  · rintro ⟨_, ⟨e, h, rfl⟩, rfl⟩
    exact ⟨e, h, rfl⟩
  · rintro ⟨e, h, rfl⟩
    exact ⟨f e, ⟨e, h, rfl⟩, rfl⟩

/-! ## Single steps -/

theorem admits_note_bind {event : Event} {f : Unit → Procedure ε β} {journal : List Entry}
    {r : Except ε β} :
    (note event >>= f).Admits journal r ↔
      ∃ rest, journal = .logged event :: rest ∧ (f ()).Admits rest r := Iff.rfl

theorem admits_note {event : Event} {journal : List Entry} {r : Except ε Unit} :
    (note event : Procedure ε Unit).Admits journal r ↔ journal = [.logged event] ∧ r = .ok () := by
  constructor
  · rintro ⟨_, rfl, rfl, rfl⟩
    exact ⟨rfl, rfl⟩
  · rintro ⟨rfl, rfl⟩
    exact ⟨[], rfl, rfl, rfl⟩

theorem admits_wait_bind {ms : Nat} {f : Unit → Procedure ε β} {journal : List Entry}
    {r : Except ε β} :
    (wait ms >>= f).Admits journal r ↔
      ∃ rest, journal = .paused ms :: rest ∧ (f ()).Admits rest r := Iff.rfl

/-- An event that is logged only under a condition comes before what follows, if it does. -/
theorem admits_note_if {c : Prop} [Decidable c] {event : Event} {f : Unit → Procedure ε β}
    {journal : List Entry} {r : Except ε β} :
    (if c then note event >>= f else f ()).Admits journal r ↔
      ∃ rest, journal = (if c then [.logged event] else []) ++ rest ∧ (f ()).Admits rest r := by
  by_cases hc : c
  · rw [if_pos hc, if_pos hc]
    exact admits_note_bind
  · simp only [if_neg hc, List.nil_append, exists_eq_left']

/-- A pause that is left out under a condition comes before what follows, if it does. -/
theorem admits_wait_unless {c : Prop} [Decidable c] {ms : Nat} {f : Unit → Procedure ε β}
    {journal : List Entry} {r : Except ε β} :
    (if c then f () else wait ms >>= f).Admits journal r ↔
      ∃ rest, journal = (if c then [] else [.paused ms]) ++ rest ∧ (f ()).Admits rest r := by
  by_cases hc : c
  · simp only [if_pos hc, List.nil_append, exists_eq_left']
  · rw [if_neg hc, if_neg hc]
    exact admits_wait_bind

theorem admits_request_bind {c : Call} {f : c.Result → Procedure ε β} {journal : List Entry}
    {r : Except ε β} :
    (request c >>= f).Admits journal r ↔
      ∃ answer rest, journal = .called c answer :: rest ∧ (f answer).Admits rest r := Iff.rfl

theorem admits_perform {c : Call} {journal : List Entry} {r : c.Result} :
    (perform c).Admits journal r ↔ journal = [.called c r] := by
  constructor
  · rintro ⟨answer, _, rfl, rfl, rfl⟩
    rfl
  · rintro rfl
    exact ⟨r, [], rfl, rfl, rfl⟩

/-- A call that is not to fail: either it does, and that is all, or its answer leads on. -/
theorem admits_perform_bind {c : Call} {f : Search.Error → ε} {g : c.Answer → Procedure ε β}
    {journal : List Entry} {r : Except ε β} :
    ((perform c).mapError f >>= g).Admits journal r ↔
      (∃ e, journal = [.called c (.error e)] ∧ r = .error (f e)) ∨
        ∃ answer rest, journal = .called c (.ok answer) :: rest ∧ (g answer).Admits rest r := by
  simp only [admits_mapError_bind, admits_perform]
  refine or_congr_right ⟨?_, ?_⟩
  · rintro ⟨answer, _, rest, rfl, rfl, h⟩
    exact ⟨answer, rest, rfl, h⟩
  · rintro ⟨answer, rest, rfl, h⟩
    exact ⟨answer, _, rest, rfl, rfl, h⟩

theorem admits_records {journal : List Entry} {r : Except Run.Error (List Record)} :
    records.Admits journal r ↔ journal = [.fetched r] := by
  constructor
  · rintro ⟨answer, _, rfl, rfl, rfl⟩
    rfl
  · rintro rfl
    exact ⟨r, [], rfl, rfl, rfl⟩

end Procedure

/-! ## Journals and states -/

section States

variable {σ : Type} (service : Service σ) (source : Source σ)

/-- The answers of a journal are those that the service and the source give, one after another, on
the way from one state to another. -/
def Replays : σ → List Entry → σ → Prop
  | s, [], s' => s' = s
  | s, .called c answer :: rest, s' =>
    answer = (service.perform c s).answer ∧ Replays (service.perform c s).state rest s'
  | s, .fetched answer :: rest, s' =>
    answer = (source.fetch s).answer ∧ Replays (source.fetch s).state rest s'
  | s, .paused _ :: rest, s' | s, .logged _ :: rest, s' => Replays s rest s'

variable {service source}

theorem replays_append {a b : List Entry} {s s' : σ} :
    Replays service source s (a ++ b) s' ↔
      ∃ between, Replays service source s a between ∧ Replays service source between b s' := by
  induction a generalizing s with
  | nil => simp only [List.nil_append, Replays, exists_eq_left]
  | cons entry rest ih =>
    cases entry with
    | called c answer => simp only [List.cons_append, Replays, ih, and_assoc, exists_and_left]
    | fetched answer => simp only [List.cons_append, Replays, ih, and_assoc, exists_and_left]
    | paused ms => exact ih
    | logged event => exact ih

theorem Replays.contacts {journal : List Entry} {s s' : σ}
    (h : Replays service source s journal s') :
    Replays service source s (contacts journal) s' := by
  induction journal generalizing s with
  | nil => exact h
  | cons entry rest ih =>
    cases entry with
    | called c answer => exact ⟨h.1, ih h.2⟩
    | fetched answer => exact ⟨h.1, ih h.2⟩
    -- Pauses and events do not touch the state.
    | paused ms => exact ih h
    | logged event => exact ih h

/-- An answer on the way is one that the service gives in some state. -/
theorem Replays.exists_state {journal : List Entry} {s s' : σ}
    (h : Replays service source s journal s') {c : Call} {answer : c.Result}
    (hmem : .called c answer ∈ journal) : ∃ state, answer = (service.perform c state).answer := by
  induction journal generalizing s with
  | nil => cases hmem
  | cons entry rest ih =>
    rcases List.mem_cons.mp hmem with rfl | hrest
    · exact ⟨s, h.1⟩
    · cases entry with
      | called | fetched => exact ih h.2 hrest
      | paused | logged => exact ih h hrest

end States

/-! ## The journals of runs -/

section Runs

variable {σ ε α : Type} (service : Service σ) (source : Source σ)

/-- The journal of a run without what the service and the source log. -/
def Procedure.ownJournal : Procedure ε α → σ → List Entry
  | .done _, _ => []
  | .call c next, s =>
    let reply := service.perform c s
    .called c reply.answer :: (next reply.answer).ownJournal reply.state
  | .fetch next, s =>
    let reply := source.fetch s
    .fetched reply.answer :: (next reply.answer).ownJournal reply.state
  | .pause ms next, s => .paused ms :: next.ownJournal s
  | .log event next, s => .logged event :: next.ownJournal s

variable {service source}

theorem admits_ownJournal (p : Procedure ε α) (s : σ) :
    p.Admits (p.ownJournal service source s) (p.run service source s).result := by
  induction p generalizing s with
  | done result => exact ⟨rfl, rfl⟩
  | call c next ih => exact ⟨_, _, rfl, ih _ _⟩
  | fetch next ih => exact ⟨_, _, rfl, ih _ _⟩
  | pause ms next ih => exact ⟨_, rfl, ih s⟩
  | log event next ih => exact ⟨_, rfl, ih s⟩

theorem replays_ownJournal (p : Procedure ε α) (s : σ) :
    Replays service source s (p.ownJournal service source s) (p.run service source s).state := by
  induction p generalizing s with
  | done result => exact rfl
  | call c next ih => exact ⟨rfl, ih _ _⟩
  | fetch next ih => exact ⟨rfl, ih _ _⟩
  | pause ms next ih => exact ih s
  | log event next ih => exact ih s

/-- What the service and the source log is all that the journal of a run has besides its own. -/
theorem ownJournal_sublist (p : Procedure ε α) (s : σ) :
    (p.ownJournal service source s).Sublist (p.run service source s).journal := by
  induction p generalizing s with
  | done result => exact .slnil
  | call c next ih => exact ((ih _ _).trans (List.sublist_append_right ..)).cons_cons _
  | fetch next ih => exact ((ih _ _).trans (List.sublist_append_right ..)).cons_cons _
  | pause ms next ih => exact (ih s).cons_cons _
  | log event next ih => exact (ih s).cons_cons _

theorem actions_ownJournal (p : Procedure ε α) (s : σ) :
    (p.run service source s).actions = actions (p.ownJournal service source s) := by
  induction p generalizing s with
  | done result => rfl
  | call c next ih =>
    -- What the service logs with its answer is no action.
    change actions (.called c _ :: (List.map _ _ ++ _)) = actions (.called c _ :: _)
    rw [actions_called, actions_append, actions_map_logged, actions_called, ← ih]
    rfl
  | fetch next ih =>
    change actions (.fetched _ :: (List.map _ _ ++ _)) = actions (.fetched _ :: _)
    rw [actions_fetched, actions_append, actions_map_logged, actions_fetched, ← ih]
    rfl
  | pause ms next ih =>
    change actions (.paused ms :: _) = actions (.paused ms :: _)
    rw [actions_paused, actions_paused, ← ih]
    rfl
  | log event next ih => exact ih s

theorem contacts_ownJournal (p : Procedure ε α) (s : σ) :
    (p.run service source s).contacts = contacts (p.ownJournal service source s) := by
  rw [← contacts_actions, ← actions_ownJournal]
  exact (contacts_actions _).symm

end Runs

/-- A run goes through a journal that its procedure admits, with the answers that the service and
the source give. -/
theorem exists_admits {σ ε α : Type} (service : Service σ) (source : Source σ)
    (p : Procedure ε α) (s : σ) :
    ∃ journal, p.Admits journal (p.run service source s).result ∧
      Replays service source s journal (p.run service source s).state ∧
      (p.run service source s).contacts = contacts journal :=
  ⟨_, admits_ownJournal p s, replays_ownJournal p s, contacts_ownJournal p s⟩

end Reindex.Run
