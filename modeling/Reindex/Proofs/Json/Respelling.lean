import Mathlib.Data.List.Basic
import Reindex.Proofs.Json.Wire

/-!
# Texts of one value

Two texts mean the same value if they differ in blanks, in the escapes of their strings, and in the
order of members with different names.  What is written at a path of the one that counts is found at
the same path of the value, and its wire text in the wire text of the value.
-/

namespace Reindex.Json

/-- The bytes are a text of the value as it is written, with blanks around it. -/
def IsText (v : Json) (t : Bytes) : Prop :=
  ∃ blank u blank', Blank blank ∧ Spells maxDepth v u ∧ Blank blank' ∧
    t = blank ++ (u ++ blank')

theorem parse_of_isText {v : Json} {t : Bytes} (h : IsText v t) : parse t = .ok v.normal := by
  obtain ⟨blank, u, blank', hblank, hspells, hblank', rfl⟩ := h
  exact parse_of_spells hspells hblank hblank'

theorem isText_of_spells {v : Json} {t : Bytes} (h : Spells maxDepth v t) : IsText v t :=
  ⟨[], t, [], blank_nil, h, blank_nil, by rw [List.nil_append, List.append_nil]⟩

/-! ## The order of members -/

/-- The same value is written, except that in some of the objects members stand in another order.
Those of one name keep theirs. -/
inductive Reordered : Json → Json → Prop where
  | refl (v : Json) : Reordered v v
  | trans {u v w : Json} (h : Reordered u v) (h' : Reordered v w) : Reordered u w
  | swap {n n' : String} (hne : n ≠ n') (x y : Json) (before after : List (String × Json)) :
      Reordered (.object (before ++ (n, x) :: (n', y) :: after))
        (.object (before ++ (n', y) :: (n, x) :: after))
  | item {x y : Json} (before after : List Json) (h : Reordered x y) :
      Reordered (.array (before ++ x :: after)) (.array (before ++ y :: after))
  | member {x y : Json} (before after : List (String × Json)) (n : String) (h : Reordered x y) :
      Reordered (.object (before ++ (n, x) :: after)) (.object (before ++ (n, y) :: after))

theorem normal_of_reordered {v w : Json} (h : Reordered v w) : w.normal = v.normal := by
  induction h with
  | refl => rfl
  | trans _ _ ih ih' => rw [ih', ih]
  | swap hne x y before after =>
    rw [normal_object, normal_object]
    simp only [List.map_append, List.map_cons]
    unfold ofPairs
    rw [Keyed.ofPairs_swap hne]
  | item before after _ ih =>
    rw [normal_array, normal_array]
    simp only [List.map_append, List.map_cons, ih]
  | member before after n _ ih =>
    rw [normal_object, normal_object]
    simp only [List.map_append, List.map_cons, ih]

/-- Both are texts of one value, up to the order of its members. -/
def Respelled (t t' : Bytes) : Prop := ∃ v w, IsText v t ∧ IsText w t' ∧ Reordered v w

theorem parse_of_respelled {t t' : Bytes} (h : Respelled t t') : parse t' = parse t := by
  obtain ⟨v, w, ht, ht', hvw⟩ := h
  rw [parse_of_isText ht, parse_of_isText ht', normal_of_reordered hvw]

/-! ## Parts of a value -/

/-- One step down into a value. -/
inductive Step where
  | item (i : Nat)
  | member (name : String)

/-- The part of a value as it is written that counts at a path: of the members of one name, the last
one. -/
def at? : List Step → Json → Option Json
  | [], v => some v
  | .item i :: path, .array xs => xs[i]?.bind (at? path)
  | .member name :: path, .object pairs => (Keyed.get? name pairs.reverse).bind (at? path)
  | _ :: _, _ => none

/-- What counts stays at its path. -/
theorem at?_normal (path : List Step) (v : Json) :
    at? path v.normal = (at? path v).map normal := by
  induction path generalizing v with
  | nil => rfl
  | cons step path ih =>
    have hpart : ∀ o : Option Json,
        (o.map normal).bind (at? path) = (o.bind (at? path)).map normal := by
      intro o
      cases o with
      | none => rfl
      | some x => exact ih x
    cases v with
    | null | bool | number | string => cases step <;> rfl
    | array xs =>
      rw [normal_array]
      cases step with
      | member => rfl
      | item i =>
        unfold at?
        rw [List.getElem?_map, hpart]
    | object pairs =>
      rw [normal_object]
      cases step with
      | item => rfl
      | member name =>
        unfold ofPairs at?
        -- The members of the normal value are in order, and one has each name.
        rw [← Keyed.get?_ofPairs, Keyed.ofPairs_of_sorted (Keyed.sorted_ofPairs _),
          Keyed.get?_ofPairs, ← List.map_reverse, Keyed.get?_map, hpart]

theorem infix_flatMap {α β : Type} (f : α → List β) {x : α} {xs : List α} (h : x ∈ xs) :
    f x <:+: xs.flatMap f := by
  rw [List.flatMap_def]
  exact List.infix_of_mem_flatten (List.mem_map_of_mem h)

theorem infix_separated {α : Type} (f : α → List Char) {x : α} {xs : List α} (h : x ∈ xs) :
    f x <:+: separated f xs := by
  cases xs with
  | nil => cases h
  | cons y rest =>
    rcases List.mem_cons.mp h with rfl | h
    · exact (List.prefix_append _ _).isInfix
    · have hcomma : f x <:+: ',' :: f x := (List.suffix_cons ',' (f x)).isInfix
      have hmore := infix_flatMap (fun y => ',' :: f y) h
      exact (hcomma.trans hmore).trans (List.suffix_append _ _).isInfix

/-- The wire text of a part stands in the wire text of the whole. -/
theorem infix_chars {path : List Step} {v x : Json} (h : at? path v = some x) :
    x.chars <:+: v.chars := by
  induction path generalizing v with
  | nil =>
    obtain rfl := Option.some.inj h
    exact List.infix_rfl
  | cons step path ih =>
    have hinner : ∀ (first last : Char) (cs : List Char), cs <:+: first :: (cs ++ [last]) :=
      fun first last cs => ⟨[first], [last], rfl⟩
    cases v with
    | null | bool | number | string => cases step <;> cases h
    | array xs =>
      cases step with
      | member => cases h
      | item i =>
        obtain ⟨y, hy, hx⟩ := Option.bind_eq_some_iff.mp h
        rw [chars_array]
        exact ((ih hx).trans (infix_separated chars (List.mem_of_getElem? hy))).trans (hinner ..)
    | object pairs =>
      cases step with
      | item => cases h
      | member name =>
        obtain ⟨y, hy, hx⟩ := Option.bind_eq_some_iff.mp h
        have hmember : y.chars <:+: memberChars (name, y) :=
          ⟨stringChars name ++ [':'], [], by simp [memberChars]⟩
        have hmem : (name, y) ∈ pairs := List.mem_reverse.mp (Keyed.mem_of_get? hy)
        rw [chars_object]
        exact (((ih hx).trans hmember).trans (infix_separated memberChars hmem)).trans (hinner ..)

theorem infix_wireBytes {path : List Step} {v x : Json} (h : at? path v = some x) :
    x.wireBytes <:+: v.wireBytes := by
  obtain ⟨before, after, hv⟩ := infix_chars h
  refine ⟨Utf8.encode before, Utf8.encode after, ?_⟩
  unfold wireBytes
  rw [← hv, Utf8.encode_append, Utf8.encode_append]

/-! ## Integers -/

/-- The bytes are a literal of an integer in range.  Minus zero is none. -/
structure IntegerLiteral (l : Number.Literal) (t : Bytes) : Prop where
  spells : SpellsNumber l t
  fraction : l.fraction = none
  exponent : l.exponent = none
  notMinusZero : l.negative = true → l.whole ≠ [0]
  fits : Fits (integerOf l)

namespace IntegerLiteral

variable {l : Number.Literal} {t : Bytes}

theorem value (h : IntegerLiteral l t) : l.value? = some (.int (integerOf l)) :=
  (integer_literal h.spells h.fraction h.exponent h.notMinusZero h.fits).1

/-- The wire text of an integer is its literal. -/
theorem wireBytes_eq (h : IntegerLiteral l t) :
    (Json.number (.int (integerOf l))).wireBytes = t := by
  have htext := (integer_literal h.spells h.fraction h.exponent h.notMinusZero h.fits).2
  unfold wireBytes
  rw [chars]
  exact htext.symm

/-- Where an integer literal is written and counts, its integer stays, and the literal is in the
wire text again. -/
theorem emitted (h : IntegerLiteral l t) {n : Number} (hn : l.value? = some n) {path : List Step}
    {v : Json} (hat : at? path v = some (.number n)) :
    at? path v.normal = some (.number (.int (integerOf l))) ∧ t <:+: v.normal.wireBytes := by
  obtain rfl := Option.some.inj (hn.symm.trans h.value)
  have hnormal : at? path v.normal = some (.number (.int (integerOf l))) := by
    rw [at?_normal, hat]
    rfl
  refine ⟨hnormal, ?_⟩
  rw [← h.wireBytes_eq]
  exact infix_wireBytes hnormal

end IntegerLiteral

end Reindex.Json
