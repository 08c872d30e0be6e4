import Reindex.Proofs.Alike
import Reindex.Proofs.Steps

/-!
# Loads on services that agree

Services agree if their answers differ in nothing but the texts of errors and the rejections that
are listed.  A load takes the same steps on both, and its errors are of the same kind.
-/

namespace Reindex

/-! ## Answers -/

namespace Search

/-- Answers that a load does not tell apart: of a bulk request only the numbers count. -/
def Call.SameAnswer : (c : Call) → c.Answer → c.Answer → Prop
  | .ping | .exists _ | .delete _ | .create _ _ | .count _ => Eq
  | .bulk _ _ => fun s s' =>
    s.total = s'.total ∧ s.succeeded = s'.succeeded ∧ s.failed = s'.failed

/-- Both calls succeed with the same answer, or both fail in the same way. -/
def Call.Agree (c : Call) : c.Result → c.Result → Prop :=
  Related (fun e e' : Error => e.kind = e'.kind) c.SameAnswer

end Search

namespace Run

open Search (Call)
open Procedure

/-- Errors that differ in the texts of failed calls alone. -/
def Error.SameKind : Error → Error → Prop
  | .connectivity attempts _, .connectivity attempts' _ => attempts = attempts'
  | .service cause, .service cause' => cause.kind = cause'.kind
  | .indexRecreate index cause, .indexRecreate index' cause' =>
    index = index' ∧ cause.kind = cause'.kind
  | .fetch detail, .fetch detail' => detail = detail'
  | .config detail, .config detail' => detail = detail'
  | _, _ => False

def StepFailure.SameKind (f f' : StepFailure) : Prop :=
  f.step = f'.step ∧ f.error.SameKind f'.error

/-- The procedure goes the same way on services that agree. -/
abbrev Steady {α : Type} (p : Procedure Error α) : Prop :=
  Alike Call.Agree (Related Error.SameKind Eq) p p

/-! ## The steps of a load -/

theorem alike_service {c : Call} :
    Alike Call.Agree (Related Error.SameKind c.SameAnswer) ((perform c).mapError Error.service)
      ((perform c).mapError Error.service) :=
  (Alike.perform c).mapError fun _ _ h => h

theorem refusal?_of_agree {a a' : Call.Result .ping} (h : Call.ping.Agree a a') :
    (Readiness.refusal? a = none ∧ Readiness.refusal? a' = none) ∨
      ∃ text text', Readiness.refusal? a = some text ∧ Readiness.refusal? a' = some text' := by
  rcases related_cases h with ⟨ready, _, rfl, rfl, rfl⟩ | ⟨e, e', rfl, rfl, -⟩
  · cases ready with
    | true => exact .inl ⟨rfl, rfl⟩
    | false => exact .inr ⟨_, _, rfl, rfl⟩
  · exact .inr ⟨_, _, rfl, rfl⟩

theorem steady_attempts (r : Readiness) : ∀ left attempt : Nat, Steady (r.attempts left attempt)
  | left, attempt => by
    unfold Readiness.attempts
    apply Alike.request_bind
    intro a a' h
    rcases refusal?_of_agree h with ⟨hready, hready'⟩ | ⟨text, text', hrefused, hrefused'⟩
    · rw [hready, hready']
      exact .note_bind rfl (.pure rfl)
    · rw [hrefused, hrefused']
      refine .note_bind rfl ?_
      refine .note_bind rfl ?_
      cases left with
      | zero => exact .fail rfl
      | succ left => exact .wait_bind (steady_attempts r left (attempt + 1))

theorem steady_awaitService (r : Readiness) : Steady r.awaitService := by
  unfold Readiness.awaitService
  split
  · exact .fail rfl
  · exact .note_bind rfl (steady_attempts r _ 1)

theorem steady_reset (index : Search.IndexConfig) : Steady (reset index) := by
  -- Whether the index was lost depends on whether there was one, and both know the same of that.
  have hcreate : ∀ (existed : Bool) (next : Call.Result (.create index.name index.body) → _),
      next (.ok ()) = note (.indexCreated index.name) →
      (∀ e, next (.error e) =
        if existed then do
          note (.indexLost index.name e.message)
          fail (.indexRecreate index.name e)
        else fail (.service e)) →
      Steady (request (.create index.name index.body) >>= next) := by
    intro existed next hok herror
    apply Alike.request_bind
    intro a a' h
    rcases related_cases h with ⟨_, _, rfl, rfl, -⟩ | ⟨e, e', rfl, rfl, hkind⟩
    · rw [hok]
      exact .log rfl (.pure rfl)
    · rw [herror, herror]
      cases existed with
      | true => exact .note_bind rfl (.fail ⟨rfl, hkind⟩)
      | false => exact .fail hkind
  unfold reset
  refine .note_bind rfl ?_
  apply alike_service.bind
  rintro existed _ rfl
  cases existed with
  | true =>
    refine .note_bind rfl ?_
    apply alike_service.bind
    rintro _ _ rfl
    exact hcreate true _ rfl fun _ => rfl
  | false => exact hcreate false _ rfl fun _ => rfl

theorem steady_send (ingest : Ingest) (index : String) (total : Nat)
    (batches : List (List Record)) (sent : IngestSummary) :
    Steady (ingest.send index total batches sent) := by
  induction batches generalizing sent with
  | nil => exact .pure rfl
  | cons batch rest ih =>
    unfold Ingest.send
    apply Alike.request_bind
    intro a a' h
    rcases related_cases h with ⟨summary, summary', rfl, rfl, hsame⟩ | ⟨e, e', rfl, rfl, hkind⟩
    · -- Of an answer only the number of rejected documents is used; the events may differ.
      obtain ⟨-, -, hfailed⟩ := hsame
      have hfailures : summary.hasFailures = summary'.hasFailures := by
        unfold Search.BulkSummary.hasFailures
        rw [hfailed]
      have hrest : ∀ sent : IngestSummary, Steady (do
          note (.inserted sent.submitted)
          unless rest.isEmpty do wait ingest.pacing
          ingest.send index total rest sent) := by
        intro sent
        refine .note_bind rfl ?_
        split
        · exact ih sent
        · exact .wait_bind (ih sent)
      dsimp only
      rw [hfailures, hfailed]
      split
      · exact .note_bind rfl (hrest _)
      · exact hrest _
    · exact .note_bind rfl (.fail hkind)

theorem steady_insert (ingest : Ingest) (index : String) (records : List Record) :
    Steady (ingest.insert index records) := by
  unfold Ingest.insert
  split
  · exact .fail rfl
  · exact .note_bind rfl (steady_send ingest index _ _ .empty)

theorem Error.sameKind_refl (e : Error) : e.SameKind e := by
  cases e with
  | connectivity | service | fetch | config => exact rfl
  | indexRecreate => exact ⟨rfl, rfl⟩

theorem steady_records : Steady records := by
  refine .fetch fun dataset => .done ?_
  cases dataset with
  | ok records => exact rfl
  | error e => exact e.sameKind_refl

/-! ## The whole load -/

theorem alike_during {α : Type} (step : State) {V : α → α → Prop} {p p' : Procedure Error α}
    (h : Alike Call.Agree (Related Error.SameKind V) p p') :
    Alike Call.Agree (Related StepFailure.SameKind V) (during step p) (during step p') :=
  h.mapError fun _ _ he => ⟨rfl, he⟩

theorem alike_steps (config : Config) (start : State) :
    Alike Call.Agree (Related StepFailure.SameKind Eq) (steps config start)
      (steps config start) := by
  unfold steps
  refine .note_bind rfl ?_
  apply (alike_during .probing (steady_awaitService config.readiness)).bind
  rintro attempts _ rfl
  refine .note_bind rfl ?_
  apply (alike_during .initializing (steady_reset config.index)).bind
  rintro _ _ rfl
  refine .note_bind rfl ?_
  apply (alike_during .fetching steady_records).bind
  rintro dataset _ rfl
  refine .note_bind rfl ?_
  apply (alike_during .ingesting (steady_insert config.ingest config.index.name dataset)).bind
  rintro sent _ rfl
  refine .note_bind rfl ?_
  apply (alike_during .verifying alike_service).bind
  intro counted counted' hcounted
  obtain rfl : counted = counted' := hcounted
  split
  · exact .note_bind rfl (.pure rfl)
  · exact .pure rfl

/-- A load goes the same way on services that agree. -/
theorem alike_load (config : Config) (source source' : String) (start : State) :
    Alike Call.Agree (Related Error.SameKind Eq) (load config source start)
      (load config source' start) := by
  rw [load_eq, load_eq]
  refine .note_bind rfl ?_
  apply ((alike_steps config start).attempt (M := Error.SameKind)).bind
  intro result result' h
  rcases related_cases h with ⟨report, _, rfl, rfl, rfl⟩ | ⟨failure, failure', rfl, rfl, hsame⟩
  · exact .note_bind rfl (.pure rfl)
  · obtain ⟨hstep, herror⟩ := hsame
    apply Alike.note_bind
    · exact congrArg (fun step => some (step, State.failed)) hstep
    · exact .note_bind rfl (.fail herror)

end Run

end Reindex
