import Reindex.Proofs.Url.Below
import Reindex.Search.Client

/-!
# Where the requests of a client go

The name of an index becomes one plain segment, so every request about an index goes to that segment
of the base or to a segment below it.
-/

namespace Reindex.Search

open Url (Plain)

/-! ## The segment of an index -/

theorem percentDecode_indexSegment (name : String) :
    Text.percentDecode (indexSegment name).toList = utf8 name := by
  unfold indexSegment
  rw [String.toList_ofList, Text.percentDecode_percentEncode (by decide)]
  rfl

theorem toNat_lt_of_isAlphanum {c : Char} (h : c.isAlphanum = true) : c.toNat < 128 := by
  -- The last character of each range is small.
  have hlt : ∀ last : Char, last.toNat < 128 → c.val ≤ last.val → c.toNat < 128 :=
    fun last hlast hle => Nat.lt_of_le_of_lt (UInt32.le_iff_toNat_le.mp hle) hlast
  rcases Bool.or_eq_true_iff.mp h with hletter | hdigit
  · rcases Bool.or_eq_true_iff.mp hletter with hupper | hlower
    · exact hlt 'Z' (by decide) (of_decide_eq_true hupper).2
    · exact hlt 'z' (by decide) (of_decide_eq_true (Bool.and_eq_true_iff.mp hlower).2)
  · exact hlt '9' (by decide) (of_decide_eq_true (Bool.and_eq_true_iff.mp hdigit).2)

theorem toNat_lt_of_keepInIndexName {c : Char} (h : keepInIndexName c = true) : c.toNat < 128 := by
  unfold keepInIndexName at h
  rcases Bool.or_eq_true_iff.mp h with h | h
  · exact toNat_lt_of_isAlphanum h
  · have hfew : "_-.,*".toList.all (·.toNat < 128) = true := by decide
    exact of_decide_eq_true (List.all_eq_true.mp hfew c (List.contains_iff_mem.mp h))

theorem keepInPath_of_keepInIndexName {c : Char} (h : keepInIndexName c = true) :
    Url.keepInPath c = true ∧ c ≠ '/' ∧ c ≠ '\\' := by
  -- Among the first 128 characters this can be tried out.
  have hall : ∀ n, n < 128 → keepInIndexName (Char.ofNat n) = true →
      Url.keepInPath (Char.ofNat n) = true ∧ Char.ofNat n ≠ '/' ∧ Char.ofNat n ≠ '\\' := by
    decide
  have hc := hall c.toNat (toNat_lt_of_keepInIndexName h)
  rw [Char.ofNat_toNat] at hc
  exact hc h

theorem forall_mem_indexSegment (name : String) :
    ∀ c ∈ (indexSegment name).toList, Url.keepInPath c = true ∧ c ≠ '/' ∧ c ≠ '\\' := by
  unfold indexSegment
  rw [String.toList_ofList]
  exact Text.forall_mem_percentEncode (fun _ => keepInPath_of_keepInIndexName) (by decide)
    (by decide) name.toList

/-- A name that can be a segment: it is not empty and not a dot segment. -/
structure Nameable (index : String) : Prop where
  ne_empty : index ≠ ""
  ne_dot : index ≠ "."
  ne_dots : index ≠ ".."

theorem plain_indexSegment {name : String} (h : Nameable name) :
    Plain (indexSegment name).toList where
  ne_nil := by
    unfold indexSegment
    rw [String.toList_ofList]
    exact Text.percentEncode_ne_nil fun hnil => h.ne_empty (String.toList_eq_nil_iff.mp hnil)
  kept c hc := (forall_mem_indexSegment name c hc).1
  noSlash hc := (forall_mem_indexSegment name _ hc).2.1 rfl
  noBackslash hc := (forall_mem_indexSegment name _ hc).2.2 rfl
  notDot := by
    rw [Bool.eq_false_iff]
    intro hsegment
    -- A segment determines its name, and that of a dot segment can only be the dot.
    have hname := Url.percentDecode_of_isDot hsegment
    rw [percentDecode_indexSegment] at hname
    exact h.ne_dot (utf8_injective hname)
  notDotDot := by
    rw [Bool.eq_false_iff]
    intro hsegment
    have hname := Url.percentDecode_of_isDotDot hsegment
    rw [percentDecode_indexSegment] at hname
    exact h.ne_dots (utf8_injective hname)

theorem plain_bulk : Plain "_bulk".toList :=
  ⟨by decide, List.all_eq_true.mp (by decide), by decide, by decide, by decide, by decide⟩

theorem plain_count : Plain "_count".toList :=
  ⟨by decide, List.all_eq_true.mp (by decide), by decide, by decide, by decide, by decide⟩

/-! ## The requests -/

/-- The segments below the base that a call's request goes to. -/
def Call.segments : Call → List String
  | .ping => []
  | .exists index | .delete index | .create index _ => [indexSegment index]
  | .bulk index _ => [indexSegment index, "_bulk"]
  | .count index => [indexSegment index, "_count"]

/-- Where a call's request goes: a ping to the base, any other to segments below it. -/
def Client.place (client : Client) : Call → Url
  | .ping => client.base.withoutFragment
  | c => client.base.descend c.segments

theorem operationPath_toList {index : String} (hne : index ≠ "") (operation : String) :
    (operationPath index operation).toList = Url.joined (indexSegment index) [operation] := by
  unfold operationPath
  rw [if_neg hne, String.toList_append, String.toList_append, List.append_assoc]
  change _ = (indexSegment index).toList ++ ('/' :: operation.toList ++ [])
  rw [List.append_nil]
  rfl

/-- The reference of a call leads to its place. -/
theorem Client.below_path {client : Client} {list : List String}
    (hpath : client.base.path = .segments list) {c : Call}
    (hindex : ∀ index, c.index? = some index → Nameable index) :
    client.base.below c.path = .ok (client.place c) := by
  have hplain : ∀ index, c.index? = some index → Plain (indexSegment index).toList :=
    fun index h => plain_indexSegment (hindex index h)
  have hsegment : ∀ index, c.index? = some index →
      client.base.below (indexSegment index) = .ok (client.base.descend [indexSegment index]) := by
    intro index h
    exact Url.below_of_plain hpath (List.forall_mem_singleton.mpr (hplain index h))
      (List.append_nil _).symm
  have hoperation : ∀ index operation, c.index? = some index → Plain operation.toList →
      client.base.below (operationPath index operation) =
        .ok (client.base.descend [indexSegment index, operation]) := by
    intro index operation h hop
    exact Url.below_of_plain hpath
      (List.forall_mem_cons.mpr ⟨hplain index h, List.forall_mem_singleton.mpr hop⟩)
      (operationPath_toList (hindex index h).ne_empty operation)
  cases c with
  | ping => exact Url.below_empty hpath
  | «exists» index | delete index | create index => exact hsegment index rfl
  | bulk index => exact hoperation index "_bulk" rfl plain_bulk
  | count index => exact hoperation index "_count" rfl plain_count

theorem Client.request_eq {client : Client} {list : List String}
    (hpath : client.base.path = .segments list) {c : Call}
    (hindex : ∀ index, c.index? = some index → Nameable index) :
    client.request c = .ok ⟨c.method, client.place c, some contentType, c.body⟩ := by
  unfold Client.request
  rw [client.below_path hpath hindex]
  rfl

end Reindex.Search
