import Reindex.Proofs.Procedure
import Reindex.Run.Reset

/-!
# The calls of a reset

Which calls a reset makes for each way the service may answer them, and what it ends with.
-/

namespace Reindex.Run

open Search (IndexConfig)
open Procedure

/-- The calls of a reset and its result.  The index is deleted exactly when it exists, and created
only once nothing is in the way. -/
inductive ResetTrace (index : IndexConfig) : List Entry → Except Error Unit → Prop where
  | unclear (e : Search.Error) :
      ResetTrace index [.called (.exists index.name) (.error e)] (.error (.service e))
  | undeleted (e : Search.Error) :
      ResetTrace index
        [.called (.exists index.name) (.ok true), .called (.delete index.name) (.error e)]
        (.error (.service e))
  | uncreated (e : Search.Error) :
      ResetTrace index
        [.called (.exists index.name) (.ok false),
          .called (.create index.name index.body) (.error e)]
        (.error (.service e))
  | lost (e : Search.Error) :
      ResetTrace index
        [.called (.exists index.name) (.ok true), .called (.delete index.name) (.ok ()),
          .called (.create index.name index.body) (.error e)]
        (.error (.indexRecreate index.name e))
  | created :
      ResetTrace index
        [.called (.exists index.name) (.ok false), .called (.create index.name index.body) (.ok ())]
        (.ok ())
  | recreated :
      ResetTrace index
        [.called (.exists index.name) (.ok true), .called (.delete index.name) (.ok ()),
          .called (.create index.name index.body) (.ok ())]
        (.ok ())

/-- The calls are all that a reset does: it does not pause. -/
theorem reset_actions {index : IndexConfig} {journal : List Entry} {result : Except Error Unit}
    (h : (reset index).Admits journal result) : ResetTrace index (actions journal) result := by
  unfold reset at h
  rw [admits_note_bind] at h
  obtain ⟨_, rfl, h⟩ := h
  rw [admits_perform_bind] at h
  rcases h with ⟨e, rfl, rfl⟩ | ⟨existed, rest, rfl, h⟩
  · exact .unclear e
  cases existed with
  -- A new index: a failed creation is reported as it is.
  | false =>
    obtain ⟨answer, rest, rfl, h⟩ := h
    cases answer with
    | ok =>
      obtain ⟨rfl, rfl⟩ := admits_note.mp h
      exact .created
    | error e =>
      obtain ⟨rfl, rfl⟩ := admits_fail.mp h
      exact .uncreated e
  -- An index that was deleted: its loss is part of the report.
  | true =>
    obtain ⟨_, rfl, h⟩ := h
    replace h := admits_perform_bind.mp h
    rcases h with ⟨e, rfl, rfl⟩ | ⟨_, rest, rfl, h⟩
    · exact .undeleted e
    obtain ⟨answer, rest, rfl, h⟩ := h
    cases answer with
    | ok =>
      obtain ⟨rfl, rfl⟩ := admits_note.mp h
      exact .recreated
    | error e =>
      obtain ⟨_, rfl, rfl, rfl⟩ := h
      exact .lost e

theorem ResetTrace.contacts {index : IndexConfig} {t : List Entry} {result : Except Error Unit}
    (h : ResetTrace index t result) : Run.contacts t = t := by
  cases h <;> rfl

theorem reset_trace {index : IndexConfig} {journal : List Entry} {result : Except Error Unit}
    (h : (reset index).Admits journal result) : ResetTrace index (contacts journal) result := by
  have htrace : ResetTrace index (actions journal) result := reset_actions h
  rw [← contacts_actions, htrace.contacts]
  exact htrace

end Reindex.Run
