import Reindex.Dataset.Record
import Reindex.Proofs.Json.Respelling
import Reindex.Search.Client

/-!
# Texts of datasets

A text of an array of objects gives their records, whatever way it is spelled.  The wire text of
records is such a text, and it gives those records back.
-/

namespace Reindex.Dataset

open Json (IntegerLiteral Reordered at?)

/-- The objects as they are written, each with its members. -/
abbrev Rows := List (List (String × Json))

def Rows.toJson (rows : Rows) : Json := .array (rows.map .object)

/-- The record of each object. -/
def Rows.records (rows : Rows) : List Record :=
  rows.map fun pairs => ⟨Keyed.ofPairs (pairs.map fun m => (m.1, m.2.normal))⟩

theorem toJson_records (rows : Rows) :
    Json.array (rows.records.map Record.toJson) = rows.toJson.normal := by
  unfold Rows.toJson Rows.records
  rw [Json.normal_array, List.map_map, List.map_map]
  congr 1
  apply List.map_congr_left
  intro pairs _
  exact (Json.normal_object pairs).symm

theorem records_inj {xs ys : List Record}
    (h : Json.array (xs.map Record.toJson) = .array (ys.map Record.toJson)) : xs = ys := by
  refine List.map_injective_iff.mpr ?_ (Json.array.inj h)
  intro r r' hr
  cases r
  exact congrArg Record.mk (Json.object.inj hr)

theorem parse_of_isText {rows : Rows} {t : Bytes} (h : Json.IsText rows.toJson t) :
    parse t = .ok rows.records := by
  obtain ⟨blank, u, blank', hblank, hspells, hblank', rfl⟩ := h
  unfold parse
  rw [Json.parseMaps_of_spells hspells hblank hblank']
  unfold Rows.records
  dsimp only
  rw [List.map_map]
  rfl

/-- Records are read back from their wire text. -/
theorem parse_wireBytes {records : List Record}
    (h : Json.Portable Json.maxDepth (.array (records.map Record.toJson))) :
    parse (Json.array (records.map Record.toJson)).wireBytes = .ok records := by
  have hrows : Rows.toJson (records.map Record.members) =
      .array (records.map Record.toJson) := by
    unfold Rows.toJson
    rw [List.map_map]
    rfl
  have htext := Json.isText_of_spells (Json.spells_wireBytes h)
  rw [← hrows] at htext
  rw [← hrows, parse_of_isText htext]
  congr 1
  apply records_inj
  rw [toJson_records, hrows, Json.normal_of_portable h]

/-! ## Other spellings -/

theorem exists_rows {w : Json} {records : List Record}
    (h : w.normal = .array (records.map Record.toJson)) : ∃ rows : Rows, w = rows.toJson := by
  have hrow : ∀ {x : Json} {r : Record}, x.normal = r.toJson → ∃ pairs, x = .object pairs := by
    intro x r hx
    cases x with
    | object pairs => exact ⟨pairs, rfl⟩
    | array xs =>
      rw [Json.normal_array] at hx
      cases hx
    | null | bool | number | string => cases hx
  cases w with
  | array xs =>
    rw [Json.normal_array, Json.array.injEq] at h
    suffices hrows : ∃ rows : Rows, xs = rows.map .object by
      obtain ⟨rows, rfl⟩ := hrows
      exact ⟨rows, rfl⟩
    induction xs generalizing records with
    | nil => exact ⟨[], rfl⟩
    | cons x rest ih =>
      obtain ⟨r, records, rfl, hr, hrest⟩ := List.map_eq_cons_iff.mp h.symm
      obtain ⟨pairs, rfl⟩ := hrow hr.symm
      obtain ⟨rows, rfl⟩ := ih hrest.symm
      exact ⟨pairs :: rows, rfl⟩
  | object pairs =>
    rw [Json.normal_object] at h
    cases h
  | null | bool | number | string => cases h

/-- Both are texts of one array of objects, up to the order of members. -/
def Respelled (t t' : Bytes) : Prop :=
  ∃ (rows : Rows) (w : Json), Json.IsText rows.toJson t ∧ Json.IsText w t' ∧
    Reordered rows.toJson w

theorem parse_of_respelled {t t' : Bytes} (h : Respelled t t') : parse t' = parse t := by
  obtain ⟨rows, w, ht, ht', hreordered⟩ := h
  have hnormal : w.normal = .array (rows.records.map Record.toJson) := by
    rw [Json.normal_of_reordered hreordered, toJson_records]
  obtain ⟨rows', rfl⟩ := exists_rows hnormal
  rw [parse_of_isText ht, parse_of_isText ht']
  congr 1
  apply records_inj
  rw [toJson_records, hnormal]

/-! ## Integers -/

/-- Where an integer literal is written and counts, the record has its integer, and the literal goes
out with the record. -/
theorem integer_emitted {rows : Rows} {t u : Bytes} (ht : Json.IsText rows.toJson t)
    {l : Number.Literal} (hl : IntegerLiteral l u) {n : Number} (hn : l.value? = some n) {i : Nat}
    {path : List Json.Step} (hat : at? (.item i :: path) rows.toJson = some (.number n)) :
    ∃ records record, parse t = .ok records ∧ records[i]? = some record ∧
      at? path record.toJson = some (.number (.int (Json.integerOf l))) ∧
      ∀ index batch, record ∈ batch → u <:+: (Search.Call.bulk index batch).body := by
  have hnormal := (hl.emitted hn hat).1
  rw [← toJson_records] at hnormal
  obtain ⟨_, hitem, hrest⟩ := Option.bind_eq_some_iff.mp hnormal
  rw [List.getElem?_map] at hitem
  obtain ⟨record, hrecord, rfl⟩ := Option.map_eq_some_iff.mp hitem
  refine ⟨rows.records, record, parse_of_isText ht, hrecord, hrest, fun index batch hmem => ?_⟩
  -- The literal is in the record's line, before the line break.
  have hline : record.toJson.wireBytes <:+: Search.bulkLines index record :=
    List.infix_append _ _ _
  rw [← hl.wireBytes_eq]
  exact ((Json.infix_wireBytes hrest).trans hline).trans (Json.infix_flatMap _ hmem)

end Reindex.Dataset
