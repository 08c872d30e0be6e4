import Reindex.Proofs.Text.Percent
import Reindex.Url.Reader

/-!
# References made of plain segments

A segment is plain if reading it changes nothing: all its characters stand for themselves, none of
them is a slash, and it is not a dot segment.  A reference made of plain segments leads to the base
with exactly these segments in place of its last one.
-/

namespace Reindex.Url

/-- A segment that stays as it is. -/
structure Plain (segment : List Char) : Prop where
  ne_nil : segment ≠ []
  kept : ∀ c ∈ segment, keepInPath c = true
  noSlash : '/' ∉ segment
  noBackslash : '\\' ∉ segment
  notDot : isDot segment = false
  notDotDot : isDotDot segment = false

/-- The URL with other segments in place of its last one, and without query and fragment. -/
def descend (u : Url) (segments : List String) : Url :=
  match u.path with
  | .segments list =>
    { u with path := .segments (list.dropLast ++ segments), query := none, fragment := none }
  | .verbatim _ => u

/-! ## Dot segments -/

theorem toNat_toLower (c : Char) :
    c.toLower.toNat = if 65 ≤ c.toNat ∧ c.toNat ≤ 90 then c.toNat + 32 else c.toNat := by
  unfold Char.toLower
  split
  next h =>
    have hlow : 65 ≤ c.toNat := h.1
    have hhigh : c.toNat ≤ 90 := h.2
    rw [if_pos ⟨hlow, hhigh⟩]
    change (c.val + 32).toNat = c.val.toNat + 32
    rw [UInt32.toNat_add]
    exact Nat.mod_eq_of_lt (show c.toNat + 32 < 2 ^ 32 by omega)
  next h => exact (if_neg h).symm

theorem toLower_eq_iff {c x : Char} (hx : x.toNat < 65) : c.toLower = x ↔ c = x := by
  rw [← Char.toNat_inj, ← Char.toNat_inj, toNat_toLower]
  split
  -- A letter in lower case comes after all letters in upper case.
  · omega
  · rfl

theorem toLower_eq_e_iff {c : Char} : c.toLower = 'e' ↔ c = 'e' ∨ c = 'E' := by
  rw [← Char.toNat_inj, ← Char.toNat_inj, ← Char.toNat_inj, toNat_toLower]
  have hlower : 'e'.toNat = 101 := rfl
  have hupper : 'E'.toNat = 69 := rfl
  split <;> omega

/-- Every spelling of a dot stands for a dot. -/
theorem percentDecode_of_isDot {segment : List Char} (h : isDot segment = true) :
    Text.percentDecode segment = utf8 "." := by
  simp only [isDot, Bool.or_eq_true, beq_iff_eq, List.map_eq_cons_iff, List.map_eq_nil_iff,
    toLower_eq_iff (x := '%') (by decide), toLower_eq_iff (x := '2') (by decide),
    toLower_eq_e_iff] at h
  rcases h with rfl | ⟨_, _, rfl, rfl, _, _, rfl, rfl, _, _, rfl, rfl | rfl, rfl⟩
  all_goals rfl

/-- Every spelling of two dots stands for two dots. -/
theorem percentDecode_of_isDotDot {segment : List Char} (h : isDotDot segment = true) :
    Text.percentDecode segment = utf8 ".." := by
  simp only [isDotDot, Bool.or_eq_true, beq_iff_eq, List.map_eq_cons_iff, List.map_eq_nil_iff,
    toLower_eq_iff (x := '%') (by decide), toLower_eq_iff (x := '2') (by decide),
    toLower_eq_iff (x := '.') (by decide), toLower_eq_e_iff] at h
  -- No dot is spelled out, the first one is, the second one is, or both are.
  rcases h with ((h | h) | h) | h
  · obtain ⟨_, _, rfl, rfl, _, _, rfl, rfl, rfl⟩ := h
    rfl
  · obtain ⟨_, _, rfl, rfl, _, _, rfl, rfl, _, _, rfl, rfl | rfl, _, _, rfl, rfl, rfl⟩ := h
    all_goals rfl
  · obtain ⟨_, _, rfl, rfl, _, _, rfl, rfl, _, _, rfl, rfl, _, _, rfl, rfl | rfl, rfl⟩ := h
    all_goals rfl
  · obtain ⟨_, _, rfl, rfl, _, _, rfl, rfl, _, _, rfl, rfl | rfl, _, _, rfl, rfl, _, _, rfl, rfl,
      _, _, rfl, rfl | rfl, rfl⟩ := h
    all_goals rfl

/-! ## Cutting at slashes -/

theorem splitOn_of_not_mem {sep : Char} {cs : List Char} (h : sep ∉ cs) :
    splitOn sep cs = [cs] := by
  induction cs with
  | nil => rfl
  | cons c rest ih =>
    rw [List.mem_cons, not_or] at h
    rw [splitOn, if_neg (Ne.symm h.1), ih h.2]

theorem splitOn_append {sep : Char} {cs : List Char} (h : sep ∉ cs) (rest : List Char) :
    splitOn sep (cs ++ sep :: rest) = cs :: splitOn sep rest := by
  induction cs with
  | nil => rw [List.nil_append, splitOn, if_pos rfl]
  | cons c cs ih =>
    rw [List.mem_cons, not_or] at h
    rw [List.cons_append, splitOn, if_neg (Ne.symm h.1), ih h.2]

/-- Segments with a slash before each but the first. -/
def joined (first : String) (rest : List String) : List Char :=
  first.toList ++ rest.flatMap fun s => '/' :: s.toList

theorem splitOn_joined {first : String} {rest : List String}
    (h : ∀ s ∈ first :: rest, '/' ∉ s.toList) :
    splitOn '/' (joined first rest) = (first :: rest).map String.toList := by
  unfold joined
  induction rest generalizing first with
  | nil =>
    rw [List.flatMap_nil, List.append_nil, splitOn_of_not_mem (h first List.mem_cons_self)]
    rfl
  | cons second rest ih =>
    obtain ⟨hfirst, hrest⟩ := List.forall_mem_cons.mp h
    rw [List.flatMap_cons, List.cons_append, splitOn_append hfirst, ih hrest]
    rfl

theorem splitPath_joined (special : Bool) {first : String} {rest : List String}
    (h : ∀ s ∈ first :: rest, '/' ∉ s.toList ∧ '\\' ∉ s.toList) :
    splitPath special (joined first rest) = (first :: rest).map String.toList := by
  -- The slashes between the segments are the only characters that the segments do not bring.
  have hback : ∀ c ∈ joined first rest, c ≠ '\\' := by
    rintro c hc rfl
    rcases List.mem_append.mp hc with hc | hc
    · exact (h first List.mem_cons_self).2 hc
    · obtain ⟨s, hs, hc⟩ := List.mem_flatMap.mp hc
      rcases List.mem_cons.mp hc with hc | hc
      · exact absurd hc (by decide)
      · exact (h s (List.mem_cons_of_mem _ hs)).2 hc
  have hsame : (joined first rest).map (fun c => if c = '\\' then '/' else c) =
      joined first rest :=
    (List.map_congr_left fun c hc => if_neg (hback c hc)).trans (List.map_id _)
  unfold splitPath
  rw [hsame, ite_self, splitOn_joined fun s hs => (h s hs).1]

/-! ## The path of a reference -/

theorem encoded_eq_self {segment : String} (h : Plain segment.toList) :
    encoded keepInPath segment.toList = segment := by
  unfold encoded
  rw [Text.percentEncode_eq_self h.kept, String.ofList_toList]

theorem addSegments_of_plain {segments : List String} (h : ∀ s ∈ segments, Plain s.toList)
    (before : List String) :
    addSegments before (segments.map String.toList) = before ++ segments := by
  induction segments generalizing before with
  | nil => rw [List.map_nil, addSegments, List.append_nil]
  | cons first rest ih =>
    obtain ⟨hfirst, hrest⟩ := List.forall_mem_cons.mp h
    have hdots : ¬isDotDot first.toList = true ∧ ¬isDot first.toList = true := by
      rw [hfirst.notDotDot, hfirst.notDot]
      decide
    cases rest with
    | nil =>
      rw [List.map_cons, List.map_nil, addSegments, if_neg hdots.1, if_neg hdots.2,
        encoded_eq_self hfirst]
    | cons second rest =>
      rw [List.map_cons, List.map_cons, addSegments, if_neg hdots.1, if_neg hdots.2,
        encoded_eq_self hfirst, ← List.map_cons, ih hrest, List.append_assoc,
        List.singleton_append]
      exact List.cons_ne_nil _ _

theorem below_of_plain {base : Url} {list : List String} (hpath : base.path = .segments list)
    {reference first : String} {rest : List String} (h : ∀ s ∈ first :: rest, Plain s.toList)
    (hreference : reference.toList = joined first rest) :
    base.below reference = .ok (base.descend (first :: rest)) := by
  -- The first segment keeps the reference from being empty, which would lead to the base itself.
  have hnonempty : reference ≠ "" := by
    rintro rfl
    have hnil : first.toList = [] := (List.append_eq_nil_iff.mp hreference.symm).1
    exact (h first List.mem_cons_self).ne_nil hnil
  have hsplit : splitPath (isSpecial base.scheme) reference.toList =
      (first :: rest).map String.toList := by
    rw [hreference, splitPath_joined _ fun s hs => ⟨(h s hs).noSlash, (h s hs).noBackslash⟩]
  unfold below descend
  rw [hpath]
  dsimp only
  rw [if_neg hnonempty, hsplit, addSegments_of_plain h]

theorem below_empty {base : Url} {list : List String} (hpath : base.path = .segments list) :
    base.below "" = .ok base.withoutFragment := by
  unfold below
  rw [hpath]
  rfl

end Reindex.Url
