import Mathlib.Logic.Relation
import Reindex.Run.Error

/-!
# Reports of errors

A report walks from an error to the errors behind it and writes down each text that no line shows
yet.  The walk itself is `Reported`; whatever texts it meets, it loses none and repeats none.  The
message of every error contains the message of the error behind it, so one line is all that a report
ever has.
-/

namespace Reindex

/-! ## Texts within texts -/

namespace Text

/-- The text `part` stands somewhere in `whole`. -/
def Within (part whole : String) : Prop := ∃ before after, whole = before ++ part ++ after

theorem Within.refl (text : String) : Within text text :=
  ⟨"", "", by rw [String.empty_append, String.append_empty]⟩

theorem Within.trans {a b c : String} (hab : Within a b) (hbc : Within b c) : Within a c := by
  obtain ⟨before, after, rfl⟩ := hab
  obtain ⟨before', after', rfl⟩ := hbc
  exact ⟨before' ++ before, after ++ after', by simp only [String.append_assoc]⟩

theorem within_append_left (before part : String) : Within part (before ++ part) :=
  ⟨before, "", (String.append_empty ..).symm⟩

theorem within_iff_infix {part whole : String} :
    Within part whole ↔ part.toList <:+: whole.toList := by
  constructor
  · rintro ⟨before, after, rfl⟩
    exact ⟨before.toList, after.toList, by rw [String.toList_append, String.toList_append]⟩
  · rintro ⟨before, after, heq⟩
    refine ⟨String.ofList before, String.ofList after, String.toList_inj.mp ?_⟩
    rw [String.toList_append, String.toList_append, String.toList_ofList, String.toList_ofList,
      heq]

theorem occurs_iff_infix {part whole : List Char} : occurs part whole = true ↔ part <:+: whole := by
  induction whole with
  | nil => rw [occurs, List.isEmpty_iff, List.infix_nil]
  | cons c cs ih =>
    rw [occurs, Bool.or_eq_true, List.isPrefixOf_iff_prefix, ih, List.infix_cons_iff]

/-- The search finds exactly the texts that stand somewhere in the whole. -/
theorem contains_iff_within {whole part : String} :
    contains whole part = true ↔ Within part whole :=
  occurs_iff_infix.trans within_iff_infix.symm

end Text

open Text (Within)

/-! ## Errors behind errors -/

/-- The error of a call behind an error that ended a load. -/
def Run.Error.source? : Run.Error → Option Search.Error
  | .service cause | .indexRecreate _ cause => some cause
  | .connectivity .. | .fetch _ | .config _ => none

/-- An error of any layer. -/
inductive AnyError where
  | load (e : LoadError)
  | run (e : Run.Error)
  | search (e : Search.Error)

namespace AnyError

/-- The message of an error. -/
def message : AnyError → String
  | .load e => e.message
  | .run e => e.message
  | .search e => e.message

/-- The error right behind an error.  What ended a load stands for the load, with the same message,
so it is skipped. -/
def source? : AnyError → Option AnyError
  | .load (.config _) => none
  | .load (.run e) => e.source?.map .search
  | .load (.search e) => some (.search e)
  | .run e => e.source?.map .search
  | .search _ => none

/-- The error `cause` is right behind `e`. -/
def HasSource (e cause : AnyError) : Prop := e.source? = some cause

/-- The error `cause` is behind `e`, with any number of errors between them. -/
def Behind : AnyError → AnyError → Prop := Relation.TransGen HasSource

/-- What has a source puts its message after words of its own. -/
theorem within_of_source {e cause : AnyError} (h : e.HasSource cause) :
    Within cause.message e.message := by
  have hrun : ∀ e : Run.Error, e.source?.map AnyError.search = some cause →
      Within cause.message e.message := by
    intro e he
    cases e with
    | service | indexRecreate =>
      cases he
      exact Text.within_append_left ..
    | connectivity | fetch | config => cases he
  cases e with
  | load e =>
    cases e with
    | config => cases h
    | run e => exact hrun e h
    | search =>
      cases h
      exact Text.within_append_left ..
  | run e => exact hrun e h
  | search => cases h

/-- A message contains the messages of all errors behind it. -/
theorem within_of_behind {e cause : AnyError} (h : e.Behind cause) :
    Within cause.message e.message := by
  induction h with
  | single h => exact within_of_source h
  | tail _ h ih => exact (within_of_source h).trans ih

end AnyError

/-! ## The walk of a report -/

/-- The walk that writes a report: with these lines written, it comes to an error, adds its text
unless a line shows it, and goes on to the error behind it, until there is none. -/
inductive Reported : List String → Option AnyError → List String → Prop where
  | finished (lines : List String) : Reported lines none lines
  | next {lines report : List String} {e : AnyError}
      (hrest : Reported (LoadError.addLine lines e.message) e.source? report) :
      Reported lines (some e) report

/-- No line contains the text of a later one. -/
def Unrepeated (lines : List String) : Prop :=
  lines.Pairwise fun earlier later => ¬Within later earlier

namespace LoadError

variable {lines : List String} {text : String}

theorem addLine_of_within (h : ∃ line ∈ lines, Within text line) : addLine lines text = lines := by
  obtain ⟨line, hline, hwithin⟩ := h
  have hany : lines.any (Text.contains · text) = true :=
    List.any_eq_true.mpr ⟨line, hline, Text.contains_iff_within.mpr hwithin⟩
  rw [addLine, if_pos hany]

theorem addLine_of_not_within (h : ¬∃ line ∈ lines, Within text line) :
    addLine lines text = lines ++ [text] := by
  have hany : ¬lines.any (Text.contains · text) = true := by
    intro hany
    obtain ⟨line, hline, hcontains⟩ := List.any_eq_true.mp hany
    exact h ⟨line, hline, Text.contains_iff_within.mp hcontains⟩
  rw [addLine, if_neg hany]

theorem prefix_addLine (lines : List String) (text : String) : lines <+: addLine lines text := by
  by_cases h : ∃ line ∈ lines, Within text line
  · exact ⟨[], (List.append_nil _).trans (addLine_of_within h).symm⟩
  · rw [addLine_of_not_within h]
    exact List.prefix_append ..

/-- Afterwards a line shows the text. -/
theorem exists_line_addLine (lines : List String) (text : String) :
    ∃ line ∈ addLine lines text, Within text line := by
  by_cases h : ∃ line ∈ lines, Within text line
  · rw [addLine_of_within h]
    exact h
  · rw [addLine_of_not_within h]
    exact ⟨text, List.mem_append_right _ (List.mem_singleton_self _), .refl text⟩

theorem unrepeated_addLine (h : Unrepeated lines) : Unrepeated (addLine lines text) := by
  by_cases hshown : ∃ line ∈ lines, Within text line
  · rw [addLine_of_within hshown]
    exact h
  · rw [addLine_of_not_within hshown]
    -- The text is new, so it is only to be compared with the lines before it.
    refine List.pairwise_append.mpr ⟨h, List.pairwise_singleton .., ?_⟩
    intro line hline later hlater
    obtain rfl := List.mem_singleton.mp hlater
    exact fun hwithin => hshown ⟨line, hline, hwithin⟩

end LoadError

section Walk

open LoadError

variable {lines report : List String} {e? : Option AnyError}

theorem Reported.unique {report' : List String} (h : Reported lines e? report)
    (h' : Reported lines e? report') : report = report' := by
  induction h with
  | finished =>
    cases h'
    rfl
  | next hrest ih =>
    cases h' with
    | next hrest' => exact ih hrest'

/-- What is written stays. -/
theorem Reported.isPrefix (h : Reported lines e? report) : lines <+: report := by
  induction h with
  | finished => exact List.prefix_rfl
  | next hrest ih => exact (prefix_addLine ..).trans ih

theorem Reported.unrepeated (h : Reported lines e? report) (hlines : Unrepeated lines) :
    Unrepeated report := by
  induction h with
  | finished => exact hlines
  -- The invariant is carried along the walk: it holds of the lines at each error.
  | next hrest ih => exact ih (unrepeated_addLine hlines)

/-- The report shows every error that the walk starts from or that is behind it. -/
theorem Reported.shows (h : Reported lines e? report) {e cause : AnyError} (he : e? = some e)
    (hcause : Relation.ReflTransGen AnyError.HasSource e cause) :
    ∃ line ∈ report, Within cause.message line := by
  induction h generalizing e with
  | finished => cases he
  | @next lines report first hrest ih =>
    obtain rfl := Option.some.inj he
    rcases hcause.cases_head with rfl | ⟨next, hnext, hbehind⟩
    · -- The text is shown once the walk has come to it, and what is written stays.
      obtain ⟨line, hline, hwithin⟩ := exists_line_addLine lines first.message
      exact ⟨line, hrest.isPrefix.subset hline, hwithin⟩
    · exact ih hnext hbehind

/-- A walk for whose first error the lines have the text already adds nothing. -/
theorem Reported.eq_of_within (h : Reported lines e? report)
    (hshown : ∀ e, e? = some e → ∃ line ∈ lines, Within e.message line) : report = lines := by
  induction h with
  | finished => rfl
  | @next lines report first hrest ih =>
    obtain ⟨line, hline, hwithin⟩ := hshown first rfl
    rw [addLine_of_within ⟨line, hline, hwithin⟩] at ih
    -- The text of the next error is within the text of this one.
    exact ih fun e he => ⟨line, hline, (AnyError.within_of_source he).trans hwithin⟩

end Walk

/-- The walk from the errors behind an error ends with the lines of its report. -/
theorem reported_reportLines (e : LoadError) :
    Reported [e.message] (AnyError.load e).source? e.reportLines := by
  -- No error is behind that of a call.
  have hsearch : ∀ cause : Search.Error, Reported [e.message] (some (.search cause))
      ([cause.message].foldl LoadError.addLine [e.message]) := fun _ => .next (.finished _)
  cases e with
  | config => exact .finished _
  | search cause => exact hsearch cause
  | run e =>
    cases e with
    | service cause | indexRecreate _ cause => exact hsearch cause
    | connectivity | fetch | config => exact .finished _

/-! ## The law of reports -/

/-- The lines are a report of an error that loses nothing and repeats nothing. -/
structure IsReport (e : LoadError) (lines : List String) : Prop where
  /-- The walk comes to its end, and it has written these lines. -/
  ends : ∀ report, Reported [e.message] (AnyError.load e).source? report ↔ report = lines
  first : lines.head? = some e.message
  complete : ∀ cause, (AnyError.load e).Behind cause → ∃ line ∈ lines, Within cause.message line
  unrepeated : Unrepeated lines

theorem isReport_of_reported {e : LoadError} {lines : List String}
    (h : Reported [e.message] (AnyError.load e).source? lines) : IsReport e lines where
  ends report := by
    constructor
    · intro hreport
      exact hreport.unique h
    · rintro rfl
      exact h
  first := by
    obtain ⟨rest, rfl⟩ := h.isPrefix
    rfl
  complete cause hbehind := by
    -- The walk starts from the first error behind this one.
    obtain ⟨next, hnext, hcause⟩ := Relation.TransGen.head'_iff.mp hbehind
    exact h.shows hnext hcause
  unrepeated := h.unrepeated (List.pairwise_singleton ..)

/-- The report of any error is complete, repeats nothing, and has one line: the message of the
error, since messages contain those of all errors behind them. -/
theorem reportLines_of_error (e : LoadError) :
    IsReport e e.reportLines ∧ e.reportLines = [e.message] ∧
      ∀ error cause : AnyError, error.Behind cause → Within cause.message error.message := by
  have hwalk : Reported [e.message] (AnyError.load e).source? e.reportLines :=
    reported_reportLines e
  refine ⟨isReport_of_reported hwalk, ?_, fun _ _ => AnyError.within_of_behind⟩
  apply hwalk.eq_of_within
  intro cause hcause
  exact ⟨e.message, List.mem_singleton_self _, AnyError.within_of_source hcause⟩

/-- An index that was lost in a load, for a reason that is in the report. -/
theorem reportLines_of_lost_index :
    let cause : Search.Error := ⟨.indexCreation, "status 500"⟩
    let e : LoadError := .run (.indexRecreate "movies" cause)
    e.reportLines = ["Index movies was deleted but could not be recreated: " ++
        "Index creation error: status 500"] ∧
      (AnyError.load e).Behind (.search cause) ∧
      ∃ line ∈ e.reportLines, Within "Index creation error: status 500" line := by
  intro cause e
  have hbehind : (AnyError.load e).Behind (.search cause) := .single rfl
  obtain ⟨hreport, hlines, -⟩ := reportLines_of_error e
  exact ⟨hlines, hbehind, hreport.complete _ hbehind⟩

end Reindex
