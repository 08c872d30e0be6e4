import Reindex.Proofs.Dataset.Texts
import Reindex.Proofs.Json.ValueTexts
import Reindex.Run.Error

/-!
# The grammar of datasets

The texts that give records are the texts of arrays of objects, and no others.  What a record holds
is what counts in its object: the last of the members of one name, with the text of every string and
the integer of every integer literal.
-/

namespace Reindex.Json

/-- A text has one scalar. -/
theorem SpellsScalar.unique {v w : Json} {t : Bytes} (hv : SpellsScalar v t)
    (hw : SpellsScalar w t) : v = w := by
  have hend : Ends [] := trivial
  obtain ⟨b, u, rfl, -, hread⟩ := readScalar_of_spells hv hend
  obtain ⟨c, u', heq, -, hread'⟩ := readScalar_of_spells hw hend
  obtain ⟨rfl, rfl⟩ := List.cons.inj heq
  rw [hread] at hread'
  cases hread'
  rfl

theorem IntegerLiteral.scalar {l : Number.Literal} {t : Bytes} (h : IntegerLiteral l t) :
    SpellsScalar (.number (.int (integerOf l))) t :=
  .number h.spells h.value

end Reindex.Json

namespace Reindex.Dataset

open Json (IntegerLiteral IsText SpellsScalar SpellsString at?)

theorem maps_of_parse {t : Bytes} {records : List Record} (h : parse t = .ok records) :
    ∃ maps, Json.parseMaps t = .ok maps ∧ records = maps.map .mk := by
  unfold parse at h
  split at h
  next maps hmaps =>
    cases h
    exact ⟨maps, hmaps, rfl⟩
  next => cases h

theorem rows_of_parse {t : Bytes} {records : List Record} (h : parse t = .ok records) :
    ∃ rows : Rows, IsText rows.toJson t ∧ records = rows.records := by
  obtain ⟨maps, hmaps, rfl⟩ := maps_of_parse h
  obtain ⟨rows, blank, u, blank', hblank, hspells, hblank', rfl, rfl⟩ :=
    Json.rows_of_parseMaps hmaps
  refine ⟨rows, ⟨blank, u, blank', hblank, hspells, hblank', rfl⟩, ?_⟩
  unfold Rows.records
  rw [List.map_map]
  rfl

/-- The texts of datasets are the texts of arrays of objects. -/
theorem parse_eq_ok_iff {t : Bytes} {records : List Record} :
    parse t = .ok records ↔ ∃ rows : Rows, IsText rows.toJson t ∧ records = rows.records := by
  constructor
  · exact rows_of_parse
  · rintro ⟨rows, htext, rfl⟩
    exact parse_of_isText htext

/-- One record for each object, in their order. -/
theorem getElem?_records {rows : Rows} {i : Nat} {pairs : List (String × Json)}
    (h : rows[i]? = some pairs) :
    ∃ record, rows.records[i]? = some record ∧ record.toJson = (Json.object pairs).normal := by
  refine ⟨⟨Keyed.ofPairs (pairs.map fun m => (m.1, m.2.normal))⟩, ?_, ?_⟩
  · unfold Rows.records
    rw [List.getElem?_map, h]
    rfl
  · exact (Json.normal_object pairs).symm

/-- The members of a record have different names, in their order. -/
theorem sorted_of_mem_records {rows : Rows} {record : Record} (h : record ∈ rows.records) :
    Keyed.Sorted record.members := by
  obtain ⟨pairs, -, rfl⟩ := List.mem_map.mp h
  exact Keyed.sorted_ofPairs _

/-- A text is a dataset exactly if it is a text of an array of objects, and anything else is refused
as such.  There is one record for each object, in order; its members have different names, and at
every path it holds what counts there.  A string is the text that its escapes stand for, and an
integer literal is its integer. -/
theorem grammar_of_dataset (t : Bytes) :
    let result := (parse t).mapError Run.Error.fetch
    (∀ records, result = .ok records ↔
        ∃ rows : Rows, IsText rows.toJson t ∧ records = rows.records) ∧
      ((¬∃ rows : Rows, IsText rows.toJson t) → ∃ e : Json.Error, result =
        .error (.fetch ("Dataset is not a JSON array of objects: " ++ e.message))) ∧
      (∀ rows : Rows, rows.records.length = rows.length ∧
        ∀ (i : Nat) (pairs : List (String × Json)), rows[i]? = some pairs → ∃ record : Record,
          rows.records[i]? = some record ∧ Keyed.Sorted record.members ∧
          ∀ path, at? path record.toJson = (at? path (.object pairs)).map Json.normal) ∧
      ∀ v u, SpellsScalar v u →
        (∀ s, SpellsString s u → v = .string s) ∧
          ∀ l, IntegerLiteral l u → v = .number (.int (Json.integerOf l)) := by
  intro result
  refine ⟨fun records => ?_, fun hnone => ?_, fun rows => ⟨?_, fun i pairs hrow => ?_⟩,
    fun v u hv => ⟨fun s hs => ?_, fun l hl => ?_⟩⟩
  · rw [← parse_eq_ok_iff]
    constructor
    · exact mapError_eq_ok
    · intro h
      show (parse t).mapError _ = _
      rw [h]
      rfl
  · show ∃ e, (parse t).mapError _ = _
    cases hmaps : Json.parseMaps t with
    | error e =>
      refine ⟨e, ?_⟩
      unfold parse
      rw [hmaps]
      rfl
    | ok maps =>
      -- The objects of a text that is read are rows of it.
      have hparse : parse t = .ok (maps.map .mk) := by
        unfold parse
        rw [hmaps]
      obtain ⟨rows, htext, -⟩ := rows_of_parse hparse
      exact absurd ⟨rows, htext⟩ hnone
  · exact List.length_map _
  · obtain ⟨record, hrecord, hnormal⟩ := getElem?_records hrow
    refine ⟨record, hrecord, sorted_of_mem_records (List.mem_of_getElem? hrecord), ?_⟩
    intro path
    rw [hnormal]
    exact Json.at?_normal path _
  · exact hv.unique (.string hs)
  · exact hv.unique hl.scalar

/-- One object with two members of one name, the second of them escaped. -/
def repeatedMember : Bytes := utf8 " [\x7b\"a\":1 ,\"\\u0061\":-7\x7d]\n"

/-- A comma too many. -/
def trailingComma : Bytes := utf8 "[\x7b\"a\":1\x7d,]"

theorem grammar_of_repeated_member :
    (∃ rows : Rows, IsText rows.toJson repeatedMember ∧
        rows.records.map (fun r => r.toJson.wireBytes) = [utf8 "\x7b\"a\":-7\x7d"]) ∧
      ¬∃ rows : Rows, IsText rows.toJson trailingComma := by
  have hmember := (grammar_of_dataset repeatedMember).1
  have hcomma := (grammar_of_dataset trailingComma).1
  constructor
  · have hwire : ((parse repeatedMember).mapError Run.Error.fetch).map
        (List.map fun r => r.toJson.wireBytes) = .ok [utf8 "\x7b\"a\":-7\x7d"] := by
      decide +kernel
    cases hread : (parse repeatedMember).mapError Run.Error.fetch with
    | error e =>
      rw [hread] at hwire
      cases hwire
    | ok records =>
      rw [hread] at hwire
      obtain ⟨rows, htext, rfl⟩ := (hmember records).mp hread
      exact ⟨rows, htext, Except.ok.inj hwire⟩
  · have hrefused : ((parse trailingComma).mapError Run.Error.fetch).isOk = false := by
      decide +kernel
    rintro ⟨rows, htext⟩
    have hread := (hcomma rows.records).mpr ⟨rows, htext, rfl⟩
    rw [hread] at hrefused
    cases hrefused

end Reindex.Dataset
