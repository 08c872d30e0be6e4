import Reindex.Proofs.Results
import Reindex.Run.Load

/-!
# Procedures that go the same way

Two procedures are alike if they take the same steps as long as the answers that they get are
related, and end with related results.  Run against services whose answers are related, they make
the same calls, pass through the same states of a load, and end alike.
-/

namespace Reindex.Run

open Search (Call Service)
open Dataset (Source)

/-! ## What a run shows -/

/-- The states that an event leads from and to. -/
def transition? : Event → Option (State × State)
  | .stateChanged old new => some (old, new)
  | _ => none

namespace Outcome

variable {σ ε α : Type}

/-- The states that a run passed through, in pairs. -/
def transitions (o : Outcome σ ε α) : List (State × State) := o.events.filterMap transition?

theorem filterMap_call?_logged (events : List Event) :
    (events.map Entry.logged).filterMap Entry.call? = [] := by
  induction events with
  | nil => rfl
  | cons event rest ih => exact ih

theorem filterMap_event?_logged (events : List Event) :
    (events.map Entry.logged).filterMap Entry.event? = events := by
  induction events with
  | nil => rfl
  | cons event rest ih => exact congrArg (event :: ·) ih

theorem calls_after (earlier : List Entry) (o : Outcome σ ε α) :
    (o.after earlier).calls = earlier.filterMap Entry.call? ++ o.calls :=
  List.filterMap_append

theorem transitions_after (earlier : List Entry) (o : Outcome σ ε α) :
    (o.after earlier).transitions =
      (earlier.filterMap Entry.event?).filterMap transition? ++ o.transitions := by
  unfold transitions events after
  rw [List.filterMap_append, List.filterMap_append]

end Outcome

namespace Procedure

/-- The two procedures take the same steps after related answers, and end with related results.
Only their logs may differ, except where a load changes its state. -/
inductive Alike {ε ε' α α' : Type} (A : ∀ c : Call, c.Result → c.Result → Prop)
    (T : Except ε α → Except ε' α' → Prop) : Procedure ε α → Procedure ε' α' → Prop where
  | done {r : Except ε α} {r' : Except ε' α'} (h : T r r') : Alike A T (.done r) (.done r')
  | call {c : Call} {next : c.Result → Procedure ε α} {next' : c.Result → Procedure ε' α'}
      (h : ∀ a a', A c a a' → Alike A T (next a) (next' a')) :
      Alike A T (.call c next) (.call c next')
  | fetch {next : Except Run.Error (List Record) → Procedure ε α}
      {next' : Except Run.Error (List Record) → Procedure ε' α'}
      (h : ∀ dataset, Alike A T (next dataset) (next' dataset)) :
      Alike A T (.fetch next) (.fetch next')
  | pause {ms : Nat} {next : Procedure ε α} {next' : Procedure ε' α'} (h : Alike A T next next') :
      Alike A T (.pause ms next) (.pause ms next')
  | log {event event' : Event} {next : Procedure ε α} {next' : Procedure ε' α'}
      (hevent : transition? event = transition? event') (h : Alike A T next next') :
      Alike A T (.log event next) (.log event' next')

/-! ## Runs -/

/-- What two services and two sources do in related states.  It has to hold only for the steps that
`P` is true of, as the first of the two sees them. -/
structure Simulates {σ σ' : Type} (A : ∀ c : Call, c.Result → c.Result → Prop) (P : Entry → Prop)
    (R : σ → σ' → Prop) (service : Service σ) (source : Source σ) (service' : Service σ')
    (source' : Source σ') : Prop where
  call : ∀ c s s', R s s' → P (.called c (service.perform c s).answer) →
    A c (service.perform c s).answer (service'.perform c s').answer ∧
      R (service.perform c s).state (service'.perform c s').state ∧
      (service.perform c s).events.filterMap transition? =
        (service'.perform c s').events.filterMap transition?
  fetch : ∀ s s', R s s' →
    (source.fetch s).answer = (source'.fetch s').answer ∧
      R (source.fetch s).state (source'.fetch s').state ∧
      (source.fetch s).events.filterMap transition? =
        (source'.fetch s').events.filterMap transition?

theorem Alike.run {ε ε' α α' σ σ' : Type} {A : ∀ c : Call, c.Result → c.Result → Prop}
    {P : Entry → Prop} {R : σ → σ' → Prop} {service : Service σ} {source : Source σ}
    {service' : Service σ'} {source' : Source σ'}
    (hsim : Simulates A P R service source service' source')
    {T : Except ε α → Except ε' α' → Prop} {p : Procedure ε α} {p' : Procedure ε' α'}
    (h : Alike A T p p') {s : σ} {s' : σ'} (hs : R s s')
    (hP : ∀ entry ∈ (p.run service source s).journal, P entry) :
    let o := p.run service source s
    let o' := p'.run service' source' s'
    T o.result o'.result ∧ R o.state o'.state ∧ o.calls = o'.calls ∧
      o.transitions = o'.transitions := by
  induction h generalizing s s' with
  | done h => exact ⟨h, hs, rfl, rfl⟩
  | @call c next next' h ih =>
    obtain ⟨hanswer, hstate, hevents⟩ := hsim.call c s s' hs (hP _ List.mem_cons_self)
    obtain ⟨hresult, hafter, hcalls, htransitions⟩ := ih _ _ hanswer hstate fun entry hentry =>
      hP entry (List.mem_append_right _ hentry)
    refine ⟨hresult, hafter, ?_, ?_⟩
    · simp only [Procedure.run, Outcome.calls_after, List.filterMap_cons, Entry.call?,
        Outcome.filterMap_call?_logged, hcalls]
    · simp only [Procedure.run, Outcome.transitions_after, List.filterMap_cons, Entry.event?,
        Outcome.filterMap_event?_logged, hevents, htransitions]
  | @fetch next next' h ih =>
    obtain ⟨hanswer, hstate, hevents⟩ := hsim.fetch s s' hs
    have hrest := ih (source.fetch s).answer hstate fun entry hentry =>
      hP entry (List.mem_append_right _ hentry)
    rw [hanswer] at hrest
    obtain ⟨hresult, hafter, hcalls, htransitions⟩ := hrest
    simp only [Procedure.run, Outcome.calls_after, Outcome.transitions_after, List.filterMap_cons,
      Entry.call?, Entry.event?, Outcome.filterMap_call?_logged, Outcome.filterMap_event?_logged,
      hanswer]
    exact ⟨hresult, hafter, congrArg _ hcalls, by rw [hevents, htransitions]⟩
  | pause h ih =>
    obtain ⟨hresult, hafter, hcalls, htransitions⟩ := ih hs fun entry hentry =>
      hP entry (List.mem_append_right _ hentry)
    refine ⟨hresult, hafter, ?_, ?_⟩
    · simp only [Procedure.run, Outcome.calls_after, List.filterMap_cons, Entry.call?, hcalls]
    · simp only [Procedure.run, Outcome.transitions_after, List.filterMap_cons, Entry.event?,
        htransitions]
  | log hevent h ih =>
    obtain ⟨hresult, hafter, hcalls, htransitions⟩ := ih hs fun entry hentry =>
      hP entry (List.mem_append_right _ hentry)
    refine ⟨hresult, hafter, ?_, ?_⟩
    · simp only [Procedure.run, Outcome.calls_after, List.filterMap_cons, Entry.call?, hcalls]
    · simp only [Procedure.run, Outcome.transitions_after, List.filterMap_cons, Entry.event?,
        List.filterMap_nil, hevent, htransitions]

/-! ## Building procedures -/

section Building

variable {ε ε' δ δ' α α' β β' : Type} {A : ∀ c : Call, c.Result → c.Result → Prop}
  {L : ε → ε' → Prop} {M : δ → δ' → Prop} {V : α → α' → Prop} {W : β → β' → Prop}

theorem Alike.refl (p : Procedure ε α) : Alike (fun _ => Eq) Eq p p := by
  induction p with
  | done result => exact .done rfl
  | call c next ih =>
    apply Alike.call
    rintro a _ rfl
    exact ih a
  | fetch next ih => exact .fetch ih
  | pause ms next ih => exact .pause ih
  | log event next ih => exact .log rfl ih

theorem Alike.andThen {T : Except ε α → Except ε' α' → Prop} {U : Except δ β → Except δ' β' → Prop}
    {p : Procedure ε α} {p' : Procedure ε' α'} {next : Except ε α → Procedure δ β}
    {next' : Except ε' α' → Procedure δ' β'} (h : Alike A T p p')
    (hnext : ∀ r r', T r r' → Alike A U (next r) (next' r')) :
    Alike A U (p.andThen next) (p'.andThen next') := by
  induction h with
  | done h => exact hnext _ _ h
  | call h ih => exact .call ih
  | fetch h ih => exact .fetch ih
  | pause h ih => exact .pause ih
  | log hevent h ih => exact .log hevent ih

theorem Alike.bind {p : Procedure ε α} {p' : Procedure ε' α'} {f : α → Procedure ε β}
    {f' : α' → Procedure ε' β'} (h : Alike A (Related L V) p p')
    (hf : ∀ a a', V a a' → Alike A (Related L W) (f a) (f' a')) :
    Alike A (Related L W) (p >>= f) (p' >>= f') := by
  apply h.andThen
  intro r r' hr
  rcases related_cases hr with ⟨a, a', rfl, rfl, ha⟩ | ⟨e, e', rfl, rfl, he⟩
  · exact hf a a' ha
  · exact .done he

theorem Alike.mapError {p : Procedure ε α} {p' : Procedure ε' α'} {g : ε → δ} {g' : ε' → δ'}
    (h : Alike A (Related L V) p p') (hg : ∀ e e', L e e' → M (g e) (g' e')) :
    Alike A (Related M V) (p.mapError g) (p'.mapError g') := by
  apply h.andThen
  intro r r' hr
  rcases related_cases hr with ⟨a, a', rfl, rfl, ha⟩ | ⟨e, e', rfl, rfl, he⟩
  · exact .done ha
  · exact .done (hg e e' he)

theorem Alike.attempt {T : Except ε α → Except ε' α' → Prop} {p : Procedure ε α}
    {p' : Procedure ε' α'} (h : Alike A T p p') :
    Alike A (Related M T) (p.attempt : Procedure δ (Except ε α)) p'.attempt :=
  h.andThen fun _ _ hr => .done hr

theorem Alike.fail {e : ε} {e' : ε'} (h : L e e') :
    Alike A (Related L V) (fail e : Procedure ε α) (Procedure.fail e') :=
  .done h

theorem Alike.pure {a : α} {a' : α'} (h : V a a') :
    Alike A (Related L V) (Pure.pure a : Procedure ε α) (Pure.pure a') :=
  .done h

theorem Alike.note_bind {T : Except ε β → Except ε' β' → Prop} {event event' : Event}
    {f : Unit → Procedure ε β} {f' : Unit → Procedure ε' β'}
    (hevent : transition? event = transition? event') (h : Alike A T (f ()) (f' ())) :
    Alike A T (note event >>= f) (note event' >>= f') :=
  .log hevent h

theorem Alike.wait_bind {T : Except ε β → Except ε' β' → Prop} {ms : Nat}
    {f : Unit → Procedure ε β} {f' : Unit → Procedure ε' β'} (h : Alike A T (f ()) (f' ())) :
    Alike A T (wait ms >>= f) (wait ms >>= f') :=
  .pause h

theorem Alike.request_bind {T : Except ε β → Except ε' β' → Prop} {c : Call}
    {f : c.Result → Procedure ε β} {f' : c.Result → Procedure ε' β'}
    (h : ∀ a a', A c a a' → Alike A T (f a) (f' a')) :
    Alike A T (request c >>= f) (request c >>= f') :=
  .call h

theorem Alike.perform (c : Call) : Alike A (A c) (perform c) (Procedure.perform c) :=
  .call fun _ _ h => .done h

end Building

end Procedure

end Reindex.Run
