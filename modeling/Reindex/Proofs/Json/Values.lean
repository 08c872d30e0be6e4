import Reindex.Proofs.Json.Scalars

/-!
# Reading values

Every text of a value is read as that value: first lists of elements and members, for any reader of
one of them, then values by the depth of their nesting, then whole texts.
-/

namespace Reindex.Json

/-! ## Elements -/

section Lists

variable {α : Type} {reader : Reader α} {item : α → Bytes → Prop} {bound : Nat}

/-- The reader reads the texts of elements up to a length, with or without blanks before them. -/
def Reads (reader : Reader α) (item : α → Bytes → Prop) (bound : Nat) : Prop :=
  ∀ x t blank rest, item x t → t.length ≤ bound → Blank blank → Ends rest →
    reader (blank ++ (t ++ rest)) = .ok (x, rest)

/-- Every text of an element starts with a byte that neither is a blank nor ends an array. -/
def Starts (item : α → Bytes → Prop) : Prop :=
  ∀ x t, item x t → ∃ b u, t = b :: u ∧ isBlankByte b = false ∧ glyph b ≠ ']'

theorem blank_nil : Blank [] := fun _ h => absurd h List.not_mem_nil

theorem skipBlank_append_cons {blank : Bytes} {b : UInt8} (hblank : Blank blank)
    (hb : isBlankByte b = false) (rest : Bytes) : skipBlank (blank ++ b :: rest) = b :: rest := by
  rw [skipBlank_append hblank, skipBlank_cons hb]

theorem Starts.items (hstarts : Starts item) : Starts (SpellsItems item) := by
  intro xs u h
  cases h with
  | last h =>
    obtain ⟨b, u, rfl, hb, hend⟩ := hstarts _ _ h
    exact ⟨b, _, List.cons_append, hb, hend⟩
  | more h =>
    obtain ⟨b, u, rfl, hb, hend⟩ := hstarts _ _ h
    exact ⟨b, _, List.cons_append, hb, hend⟩

theorem SpellsItems.length_le (hstarts : Starts item) {xs : List α} {u : Bytes}
    (h : SpellsItems item xs u) : xs.length ≤ u.length := by
  have hpos : ∀ x t, item x t → 1 ≤ t.length := by
    intro x t hx
    obtain ⟨b, u, rfl, -⟩ := hstarts x t hx
    exact Nat.le_add_left 1 u.length
  induction h with
  | last hx =>
    have ht := hpos _ _ hx
    rw [List.length_append, List.length_singleton]
    omega
  | more hx _ _ _ ih =>
    have ht := hpos _ _ hx
    simp only [List.length_append, List.length_cons]
    omega

theorem readItems_of_spells (hreads : Reads reader item bound) (hstarts : Starts item)
    {xs : List α} {u : Bytes} (h : SpellsItems item xs u) (hbound : u.length ≤ bound)
    (count : Nat) (hcount : xs.length ≤ count) (rest : Bytes) :
    readItems reader count (u ++ 0x5D :: rest) = .ok (xs, rest) := by
  induction h generalizing count with
  | @last x t blank hx hblank =>
    rw [List.length_append] at hbound
    cases count with
    | zero => cases hcount
    | succ count =>
      have hends : Ends (blank ++ 0x5D :: rest) := Ends.append hblank (.inr (.inr (.inl rfl)))
      have hread := hreads x t [] _ hx (by omega) blank_nil hends
      rw [List.append_assoc, readItems, ← List.nil_append (t ++ _), hread]
      dsimp only [bind, Except.bind]
      rw [skipBlank_append_cons hblank (by decide)]
      rfl
  | @more x xs t blank blank' u hx hblank hblank' hxs ih =>
    simp only [List.length_append, List.length_cons] at hbound hcount
    cases count with
    | zero => cases hcount
    | succ count =>
      have hends : Ends (blank ++ 0x2C :: (blank' ++ u ++ 0x5D :: rest)) :=
        Ends.append hblank (.inr (.inl rfl))
      have hread := hreads x t [] _ hx (by omega) blank_nil hends
      have hrest := ih (by omega) count (by omega)
      -- The next element shows that the comma is not the last one.
      obtain ⟨b, u, rfl, hb, hend⟩ := hstarts.items xs u hxs
      rw [List.append_assoc, List.append_assoc, List.cons_append, readItems,
        ← List.nil_append (t ++ _), hread]
      dsimp only [bind, Except.bind]
      rw [skipBlank_append_cons hblank (by decide)]
      dsimp only
      rw [if_neg (by decide), if_pos (by decide), List.append_assoc, List.cons_append,
        skipBlank_append_cons hblank' hb]
      dsimp only
      rw [if_neg hend, ← List.cons_append, hrest]

theorem readArray_of_spells (hreads : Reads reader item bound) (hstarts : Starts item)
    {xs : List α} {t : Bytes} (h : SpellsList item 0x5B 0x5D xs t) (hbound : t.length ≤ bound)
    (rest : Bytes) :
    ∃ u, t = 0x5B :: u ∧ readArray reader bound (u ++ rest) = .ok (xs, rest) := by
  cases h with
  | empty hblank =>
    refine ⟨_, rfl, ?_⟩
    rw [List.append_assoc, readArray, List.singleton_append,
      skipBlank_append_cons hblank (by decide)]
    rfl
  | @items _ blank u hblank h =>
    simp only [List.length_append, List.length_cons, List.length_nil] at hbound
    have hlength := h.length_le hstarts
    have hread := readItems_of_spells hreads hstarts h (by omega) bound (by omega) rest
    obtain ⟨b, u, rfl, hb, hend⟩ := hstarts.items xs u h
    refine ⟨_, rfl, ?_⟩
    rw [List.append_assoc, List.append_assoc, List.singleton_append, List.cons_append, readArray,
      skipBlank_append_cons hblank hb]
    dsimp only
    rw [if_neg hend, ← List.cons_append]
    exact hread

/-! ## Members -/

theorem starts_member : Starts (SpellsMember item) := by
  rintro m t ⟨⟨body, -, rfl⟩, -, -, -⟩
  exact ⟨0x22, _, List.cons_append, by decide, by decide⟩

theorem readMember_of_spells (hreads : Reads reader item bound) {m : String × α} {t : Bytes}
    (h : SpellsMember item m t) (hbound : t.length ≤ bound) {rest : Bytes} (hrest : Ends rest) :
    ∃ u, t = 0x22 :: u ∧ readMember reader (u ++ rest) = .ok (m, rest) := by
  obtain ⟨hname, hblank, hblank', hvalue⟩ := h
  next name v t blank blank' u =>
  simp only [List.length_append, List.length_cons] at hbound
  obtain ⟨w, rfl, hread⟩ := readString_of_spells hname (blank ++ 0x3A :: (blank' ++ u) ++ rest)
  have hvalue := hreads v u blank' rest hvalue (by omega) hblank' hrest
  refine ⟨_, List.cons_append, ?_⟩
  rw [List.append_assoc, readMember, hread]
  dsimp only [bind, Except.bind]
  rw [List.append_assoc, List.cons_append, skipBlank_append_cons hblank (by decide)]
  dsimp only
  rw [if_pos (by decide), List.append_assoc, hvalue]

theorem readMembers_of_spells (hreads : Reads reader item bound) {pairs : List (String × α)}
    {u : Bytes} (h : SpellsItems (SpellsMember item) pairs u) (hbound : u.length ≤ bound)
    (count : Nat) (hcount : pairs.length ≤ count) (rest : Bytes) :
    ∃ w, u = 0x22 :: w ∧ readMembers reader count (w ++ 0x7D :: rest) = .ok (pairs, rest) := by
  induction h generalizing count with
  | @last m t blank hm hblank =>
    rw [List.length_append] at hbound
    cases count with
    | zero => cases hcount
    | succ count =>
      have hends : Ends (blank ++ 0x7D :: rest) := Ends.append hblank (.inr (.inr (.inr rfl)))
      obtain ⟨w, rfl, hread⟩ := readMember_of_spells hreads hm (by omega) hends
      refine ⟨_, List.cons_append, ?_⟩
      rw [List.append_assoc, readMembers, hread]
      dsimp only [bind, Except.bind]
      rw [skipBlank_append_cons hblank (by decide)]
      rfl
  | @more m pairs t blank blank' u hm hblank hblank' hpairs ih =>
    simp only [List.length_append, List.length_cons] at hbound hcount
    cases count with
    | zero => cases hcount
    | succ count =>
      have hends : Ends (blank ++ 0x2C :: (blank' ++ u ++ 0x7D :: rest)) :=
        Ends.append hblank (.inr (.inl rfl))
      obtain ⟨w, rfl, hread⟩ := readMember_of_spells hreads hm (by omega) hends
      obtain ⟨w', rfl, hrest⟩ := ih (by omega) count (by omega)
      refine ⟨_, List.cons_append, ?_⟩
      rw [List.append_assoc, List.append_assoc, List.cons_append, readMembers, hread]
      dsimp only [bind, Except.bind]
      rw [skipBlank_append_cons hblank (by decide)]
      dsimp only
      rw [if_neg (by decide), if_pos (by decide), List.append_assoc, List.cons_append,
        skipBlank_append_cons hblank' (by decide)]
      dsimp only
      rw [if_pos (by decide), hrest]

theorem readObject_of_spells (hreads : Reads reader item bound) {pairs : List (String × α)}
    {t : Bytes} (h : SpellsList (SpellsMember item) 0x7B 0x7D pairs t) (hbound : t.length ≤ bound)
    (rest : Bytes) :
    ∃ u, t = 0x7B :: u ∧ readObject reader bound (u ++ rest) = .ok (pairs, rest) := by
  cases h with
  | empty hblank =>
    refine ⟨_, rfl, ?_⟩
    rw [List.append_assoc, readObject, List.singleton_append,
      skipBlank_append_cons hblank (by decide)]
    rfl
  | @items _ blank u hblank h =>
    simp only [List.length_append, List.length_cons, List.length_nil] at hbound
    have hlength := h.length_le starts_member
    obtain ⟨w, rfl, hread⟩ := readMembers_of_spells hreads h (by omega) bound (by omega) rest
    refine ⟨_, rfl, ?_⟩
    rw [List.append_assoc, List.append_assoc, List.singleton_append, List.cons_append, readObject,
      skipBlank_append_cons hblank (by decide)]
    dsimp only
    rw [if_pos (by decide), hread]

end Lists

/-! ## Values -/

/-- The bytes are a text of the value, whatever the order of its members. -/
def Denotes (depth : Nat) (v : Json) (t : Bytes) : Prop :=
  ∃ written, Spells depth written t ∧ written.normal = v

theorem normal_of_scalar {v : Json} {t : Bytes} (h : SpellsScalar v t) : v.normal = v := by
  cases h <;> rfl

theorem denotes_items {depth : Nat} {xs : List Json} {t : Bytes}
    (h : SpellsList (Spells depth) 0x5B 0x5D xs t) :
    SpellsList (Denotes depth) 0x5B 0x5D (xs.map normal) t := by
  rw [← List.map_id xs] at h
  exact h.map fun x _ hx => ⟨x, hx, rfl⟩

theorem denotes_members {depth : Nat} {pairs : List (String × Json)} {t : Bytes}
    (h : SpellsList (SpellsMember (Spells depth)) 0x7B 0x7D pairs t) :
    SpellsList (SpellsMember (Denotes depth)) 0x7B 0x7D
      (pairs.map fun m => (m.1, m.2.normal)) t := by
  rw [← List.map_id pairs] at h
  exact h.map fun _ _ hm => hm.map fun v _ hv => ⟨v, hv, rfl⟩

theorem starts_spells (depth : Nat) : Starts (Spells depth) := by
  have hscalar : Starts SpellsScalar := by
    intro v t h
    obtain ⟨b, u, rfl, hleads, -⟩ := readScalar_of_spells h (show Ends [] from trivial)
    exact ⟨b, u, rfl, hleads.notBlank, hleads.notEnd⟩
  cases depth with
  | zero => exact hscalar
  | succ depth =>
    rintro v t (h | ⟨xs, rfl, h⟩ | ⟨pairs, rfl, h⟩)
    · exact hscalar v t h
    · cases h with
      | empty | items => exact ⟨0x5B, _, rfl, by decide, by decide⟩
    · cases h with
      | empty | items => exact ⟨0x7B, _, rfl, by decide, by decide⟩

theorem starts_value (depth : Nat) : Starts (Denotes depth) := by
  rintro v t ⟨written, h, -⟩
  exact starts_spells depth written t h

theorem readValue_of_scalar {bound depth : Nat} {v : Json} {t blank rest : Bytes}
    (h : SpellsScalar v t) (hblank : Blank blank) (hrest : Ends rest) :
    readValue bound depth (blank ++ (t ++ rest)) = .ok (v.normal, rest) := by
  obtain ⟨b, u, rfl, hleads, hread⟩ := readScalar_of_spells h hrest
  rw [List.cons_append, normal_of_scalar h]
  unfold readValue
  rw [skipBlank_append_cons hblank hleads.notBlank]
  dsimp only
  rw [if_neg hleads.notArray, if_neg hleads.notObject]
  exact hread

theorem reads_value (bound depth : Nat) : Reads (readValue bound depth) (Denotes depth) bound := by
  induction depth with
  | zero =>
    rintro _ t blank rest ⟨v, h, rfl⟩ - hblank hrest
    exact readValue_of_scalar h hblank hrest
  | succ depth ih =>
    rintro _ t blank rest ⟨v, h | ⟨xs, rfl, h⟩ | ⟨pairs, rfl, h⟩, rfl⟩ hbound hblank hrest
    · exact readValue_of_scalar h hblank hrest
    · obtain ⟨u, rfl, hread⟩ :=
        readArray_of_spells ih (starts_value depth) (denotes_items h) hbound rest
      rw [List.cons_append, normal_array]
      unfold readValue
      rw [skipBlank_append_cons hblank (by decide)]
      dsimp only
      rw [if_pos (by decide), hread]
      rfl
    · obtain ⟨u, rfl, hread⟩ := readObject_of_spells ih (denotes_members h) hbound rest
      rw [List.cons_append, normal_object]
      unfold readValue
      rw [skipBlank_append_cons hblank (by decide)]
      dsimp only
      rw [if_neg (by decide), if_pos (by decide), hread]
      rfl

/-! ## Objects and arrays of objects -/

/-- The bytes are a text of an object with these members. -/
def DenotesMap (depth : Nat) (members : Members) (t : Bytes) : Prop :=
  ∃ pairs, SpellsList (SpellsMember (Spells depth)) 0x7B 0x7D pairs t ∧
    members = Keyed.ofPairs (pairs.map fun m => (m.1, m.2.normal))

theorem reads_map (bound depth : Nat) :
    Reads (readMap bound (depth + 1)) (DenotesMap depth) bound := by
  rintro _ t blank rest ⟨pairs, h, rfl⟩ hbound hblank hrest
  obtain ⟨u, rfl, hread⟩ :=
    readObject_of_spells (reads_value bound depth) (denotes_members h) hbound rest
  rw [List.cons_append]
  unfold readMap
  rw [skipBlank_append_cons hblank (by decide)]
  dsimp only
  rw [if_pos (by decide), hread]
  rfl

theorem starts_map (depth : Nat) : Starts (DenotesMap depth) := by
  rintro _ t ⟨pairs, h, -⟩
  cases h with
  | empty | items => exact ⟨0x7B, _, rfl, by decide, by decide⟩

/-- Nothing but the array itself decides where it ends. -/
theorem readMaps_of_spells {bound depth : Nat} {maps : List Members} {t blank : Bytes}
    (h : SpellsList (DenotesMap depth) 0x5B 0x5D maps t) (hbound : t.length ≤ bound)
    (hblank : Blank blank) (rest : Bytes) :
    readMaps bound (depth + 2) (blank ++ (t ++ rest)) = .ok (maps, rest) := by
  obtain ⟨u, rfl, hread⟩ :=
    readArray_of_spells (reads_map bound depth) (starts_map depth) h hbound rest
  rw [List.cons_append]
  unfold readMaps
  rw [skipBlank_append_cons hblank (by decide)]
  dsimp only
  rw [if_pos (by decide), hread]

theorem reads_maps (bound depth : Nat) :
    Reads (readMaps bound (depth + 2)) (SpellsList (DenotesMap depth) 0x5B 0x5D) bound := by
  intro maps t blank rest h hbound hblank _
  exact readMaps_of_spells h hbound hblank rest

/-! ## Whole texts -/

theorem document_of_reads {α : Type} {reader : Reader α} {item : α → Bytes → Prop} {bound : Nat}
    (hreads : Reads reader item bound) {x : α} {t blank blank' : Bytes} (h : item x t)
    (hbound : t.length ≤ bound) (hblank : Blank blank) (hblank' : Blank blank') :
    document reader (blank ++ (t ++ blank')) = .ok x := by
  have hends : Ends blank' := by
    rw [← List.append_nil blank']
    exact Ends.append hblank' trivial
  have hskip : skipBlank blank' = [] := by
    rw [← List.append_nil blank', skipBlank_append hblank']
    rfl
  unfold document
  rw [hreads x t blank blank' h hbound hblank hends]
  dsimp only [bind, Except.bind]
  rw [hskip]
  rfl

/-- A text of a value, with blanks around it, is read as that value. -/
theorem parse_of_spells {v : Json} {t blank blank' : Bytes} (h : Spells maxDepth v t)
    (hblank : Blank blank) (hblank' : Blank blank') :
    parse (blank ++ (t ++ blank')) = .ok v.normal := by
  apply document_of_reads (reads_value _ maxDepth) ⟨v, h, rfl⟩ _ hblank hblank'
  simp only [List.length_append]
  omega

/-- A text of an array of objects, with blanks around it, is read as the members of each. -/
theorem parseMaps_of_spells {rows : List (List (String × Json))} {t blank blank' : Bytes}
    (h : Spells maxDepth (.array (rows.map .object)) t) (hblank : Blank blank)
    (hblank' : Blank blank') :
    parseMaps (blank ++ (t ++ blank')) =
      .ok (rows.map fun pairs => Keyed.ofPairs (pairs.map fun m => (m.1, m.2.normal))) := by
  have hrows : SpellsList (DenotesMap 125) 0x5B 0x5D
      (rows.map fun pairs => Keyed.ofPairs (pairs.map fun m => (m.1, m.2.normal))) t := by
    rcases h with h | ⟨xs, heq, h⟩ | ⟨pairs, heq, -⟩
    · cases h
    · -- Every element is an object, so none of its texts is a scalar's or an array's.
      cases heq
      refine h.map fun pairs u hu => ?_
      rcases hu with hu | ⟨_, heq, -⟩ | ⟨_, heq, hu⟩
      · cases hu
      · cases heq
      · cases heq
        exact ⟨pairs, hu, rfl⟩
    · cases heq
  apply document_of_reads (reads_maps _ 125) hrows _ hblank hblank'
  simp only [List.length_append]
  omega

end Reindex.Json
