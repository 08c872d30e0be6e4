import Mathlib.Data.List.Induction
import Reindex.Data.Keyed

/-!
# Maps by their lookups

What putting a value into a map and taking one out do to the values found afterwards.  A map that is
written in the order of its names is read back as it is.
-/

namespace Reindex.Keyed

variable {α : Type}

@[simp] theorem get?_nil (n : String) : get? n ([] : Keyed α) = none := rfl

theorem get?_cons (n name : String) (value : α) (rest : Keyed α) :
    get? n ((name, value) :: rest) = if n = name then some value else get? n rest := by
  unfold get?
  rw [List.lookup_cons]
  by_cases h : n = name
  · rw [if_pos h, beq_iff_eq.mpr h]
  · rw [if_neg h, beq_eq_false_iff_ne.mpr h]

theorem mem_of_get? {name : String} {x : α} {m : Keyed α}
    (h : get? name m = some x) : (name, x) ∈ m := by
  induction m with
  | nil => cases h
  | cons entry rest ih =>
    rw [get?_cons] at h
    split at h
    next heq =>
      cases h
      exact heq ▸ List.mem_cons_self
    next => exact List.mem_cons_of_mem _ (ih h)

theorem get?_insert (n name : String) (value : α) (m : Keyed α) :
    get? n (insert name value m) = if n = name then some value else get? n m := by
  induction m with
  | nil => exact get?_cons n name value []
  | cons entry rest ih =>
    obtain ⟨other, v⟩ := entry
    unfold insert
    split
    · exact get?_cons n name value _
    split
    next heq =>
      -- The entry of the same name gives way.
      subst heq
      rw [get?_cons, get?_cons]
      split <;> rfl
    next hne =>
      rw [get?_cons, get?_cons, ih]
      by_cases h : n = other
      · rw [if_pos h, if_pos h, if_neg (h ▸ Ne.symm hne)]
      · rw [if_neg h, if_neg h]

theorem get?_erase (n name : String) (m : Keyed α) :
    get? n (erase name m) = if n = name then none else get? n m := by
  induction m with
  | nil => exact (ite_self none).symm
  | cons entry rest ih =>
    obtain ⟨other, v⟩ := entry
    unfold erase at ih ⊢
    rw [List.filter_cons]
    by_cases hother : other = name
    · -- The entry is dropped, and no lookup of another name stopped at it.
      subst hother
      rw [if_neg (by simp), ih, get?_cons]
      by_cases h : n = other
      · rw [if_pos h, if_pos h]
      · rw [if_neg h, if_neg h, if_neg h]
    · rw [if_pos (by simpa using hother), get?_cons, get?_cons, ih]
      by_cases h : n = other
      · rw [if_pos h, if_pos h, if_neg (h ▸ hother)]
      · rw [if_neg h, if_neg h]

/-! ## Maps in order -/

/-- The names increase. -/
def Sorted (m : Keyed α) : Prop := m.Pairwise fun a b => a.1 < b.1

theorem sorted_pair {a b : String} {x y : α} (h : a < b) : Sorted [(a, x), (b, y)] :=
  List.pairwise_pair.mpr h

theorem mem_of_mem_insert {m : Keyed α} {name : String} {value : α} {entry : String × α}
    (h : entry ∈ insert name value m) : entry = (name, value) ∨ entry ∈ m := by
  induction m with
  | nil => exact .inl (List.mem_singleton.mp h)
  | cons first rest ih =>
    obtain ⟨n, v⟩ := first
    unfold insert at h
    split at h
    · exact List.mem_cons.mp h
    split at h
    · exact (List.mem_cons.mp h).imp_right (List.mem_cons_of_mem _)
    · rcases List.mem_cons.mp h with heq | h
      · exact .inr (heq ▸ List.mem_cons_self)
      · exact (ih h).imp_right (List.mem_cons_of_mem _)

theorem sorted_insert {m : Keyed α} (h : Sorted m) (name : String) (value : α) :
    Sorted (insert name value m) := by
  induction m with
  | nil => exact List.pairwise_singleton ..
  | cons first rest ih =>
    obtain ⟨n, v⟩ := first
    obtain ⟨hfirst, hrest⟩ := List.pairwise_cons.mp h
    unfold insert
    split
    next hlt =>
      refine List.pairwise_cons.mpr ⟨List.forall_mem_cons.mpr ⟨hlt, fun e he => ?_⟩, h⟩
      exact String.lt_trans hlt (hfirst e he)
    split
    next heq => exact List.pairwise_cons.mpr ⟨heq ▸ hfirst, hrest⟩
    next hge hne =>
      have hgt : n < name := String.not_le.mp fun hle =>
        hne (String.le_antisymm hle (String.not_lt.mp hge))
      refine List.pairwise_cons.mpr ⟨fun e he => ?_, ih hrest⟩
      rcases mem_of_mem_insert he with rfl | he
      · exact hgt
      · exact hfirst e he

/-- Whatever the order of the pairs, the map is in order. -/
theorem sorted_ofPairs (pairs : List (String × α)) : Sorted (ofPairs pairs) := by
  have hfold : ∀ m : Keyed α, Sorted m →
      Sorted (pairs.foldl (fun m p => insert p.1 p.2 m) m) := by
    induction pairs with
    | nil => exact fun _ h => h
    | cons p rest ih => exact fun m h => ih _ (sorted_insert h p.1 p.2)
  exact hfold [] .nil

theorem mem_of_mem_ofPairs {pairs : List (String × α)} {entry : String × α}
    (h : entry ∈ ofPairs pairs) : entry ∈ pairs := by
  have hfold : ∀ rest m : List (String × α),
      entry ∈ rest.foldl (fun m p => insert p.1 p.2 m) m → entry ∈ m ∨ entry ∈ rest := by
    intro rest
    induction rest with
    | nil => exact fun _ h => .inl h
    | cons p rest ih =>
      intro m h
      rcases ih _ h with h | h
      · rcases mem_of_mem_insert h with rfl | h
        · exact .inr List.mem_cons_self
        · exact .inl h
      · exact .inr (List.mem_cons_of_mem _ h)
  exact (hfold pairs [] h).resolve_left List.not_mem_nil

theorem insert_of_forall_lt {m : Keyed α} {name : String} {value : α}
    (h : ∀ entry ∈ m, entry.1 < name) : insert name value m = m ++ [(name, value)] := by
  induction m with
  | nil => rfl
  | cons entry rest ih =>
    have hlt := h entry List.mem_cons_self
    have hne : name ≠ entry.1 := fun heq => String.lt_irrefl _ (heq ▸ hlt)
    have hrest := ih fun e he => h e (List.mem_cons_of_mem _ he)
    unfold insert
    rw [if_neg (String.lt_asymm hlt), if_neg hne, hrest, List.cons_append]

/-- Each pair of a sorted list comes after all that are there. -/
theorem ofPairs_of_sorted {m : Keyed α} (h : Sorted m) : ofPairs m = m := by
  have hfold : ∀ (rest before : Keyed α), Sorted (before ++ rest) →
      rest.foldl (fun m p => insert p.1 p.2 m) before = before ++ rest := by
    intro rest
    induction rest with
    | nil => exact fun before _ => (List.append_nil before).symm
    | cons entry rest ih =>
      intro before hsorted
      have hlast : ∀ e ∈ before, e.1 < entry.1 := fun e he =>
        (List.pairwise_append.mp hsorted).2.2 e he entry List.mem_cons_self
      have hassoc : before ++ entry :: rest = before ++ [entry] ++ rest := by
        rw [List.append_assoc, List.singleton_append]
      rw [hassoc] at hsorted ⊢
      rw [List.foldl_cons, insert_of_forall_lt hlast]
      exact ih _ hsorted
  exact hfold m [] h

/-! ## Maps by the pairs that they are written as -/

theorem ofPairs_append_singleton (pairs : List (String × α)) (name : String) (value : α) :
    ofPairs (pairs ++ [(name, value)]) = insert name value (ofPairs pairs) :=
  List.foldl_append

/-- Of the pairs with one name the last one counts. -/
theorem get?_ofPairs (n : String) (pairs : List (String × α)) :
    get? n (ofPairs pairs) = get? n pairs.reverse := by
  induction pairs using List.reverseRecOn with
  | nil => rfl
  | append_singleton pairs p ih =>
    rw [ofPairs_append_singleton, get?_insert, ih, List.reverse_append, List.reverse_singleton,
      List.singleton_append, get?_cons]

theorem get?_map {β : Type} (f : α → β) (n : String) (pairs : List (String × α)) :
    get? n (pairs.map fun p => (p.1, f p.2)) = (get? n pairs).map f := by
  induction pairs with
  | nil => rfl
  | cons p rest ih =>
    rw [List.map_cons, get?_cons, get?_cons, ih]
    split <;> rfl

/-- Values of different names can be put in in either order. -/
theorem insert_comm {n n' : String} (h : n ≠ n') (x y : α) (m : Keyed α) :
    insert n x (insert n' y m) = insert n' y (insert n x m) := by
  have htrans : ∀ {a b c : String}, a < b → b < c → a < c := String.lt_trans
  have hasymm : ∀ {a b : String}, a < b → ¬b < a := String.lt_asymm
  have htotal : ∀ {a b : String}, ¬a < b → a ≠ b → b < a := fun hlt hne =>
    String.not_le.mp fun hle => hne (String.le_antisymm hle (String.not_lt.mp hlt))
  induction m with
  | nil => grind [insert]
  | cons entry rest ih => grind [insert]

theorem ofPairs_swap {n n' : String} (h : n ≠ n') (x y : α) (before after : List (String × α)) :
    ofPairs (before ++ (n, x) :: (n', y) :: after) =
      ofPairs (before ++ (n', y) :: (n, x) :: after) := by
  unfold ofPairs
  simp only [List.foldl_append, List.foldl_cons]
  rw [insert_comm h]

end Reindex.Keyed
