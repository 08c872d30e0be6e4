import Reindex.Proofs.Json.ScalarTexts
import Reindex.Proofs.Json.Values

/-!
# What is read as a value

The readers of lists, values and whole texts take nothing but texts of what they give.  As in the
other direction, lists come first, for any reader of one element, and values follow by the depth of
their nesting.
-/

namespace Reindex.Json

/-! ## Elements -/

/-- Where a reader fails if nothing but blanks is ahead, it has gone on with a byte after them. -/
theorem exists_past_blank {β : Type} {s : Bytes} {cause : Cause}
    {next : UInt8 → Bytes → Except Fault β} {y : β}
    (h : (match skipBlank s with
      | [] => faultAt cause []
      | b :: r => next b r) = .ok y) :
    ∃ blank b r, Blank blank ∧ s = blank ++ b :: r ∧ next b r = .ok y := by
  obtain ⟨blank, hblank, hs⟩ := exists_blank s
  cases hskip : skipBlank s with
  | nil =>
    rw [hskip] at h
    cases h
  | cons b r =>
    rw [hskip] at h hs
    exact ⟨blank, b, r, hblank, hs, h⟩

section Lists

variable {α : Type} {reader : Reader α} {item : α → Bytes → Prop}

/-- What the reader takes is a text of what it gives, maybe with blanks before it. -/
def ReadsOnly (reader : Reader α) (item : α → Bytes → Prop) : Prop :=
  ∀ s x rest, reader s = .ok (x, rest) →
    ∃ blank t, Blank blank ∧ item x t ∧ s = blank ++ (t ++ rest)

theorem items_of_readItems (hreader : ReadsOnly reader item) {count : Nat} {s rest : Bytes}
    {xs : List α} (h : readItems reader count s = .ok (xs, rest)) :
    ∃ blank u, Blank blank ∧ SpellsItems item xs u ∧ s = blank ++ (u ++ 0x5D :: rest) := by
  induction count generalizing s xs with
  | zero => cases h
  | succ count ih =>
    unfold readItems at h
    obtain ⟨⟨x, after⟩, hx, hmore⟩ := bind_eq_ok h
    clear h
    obtain ⟨blank, t, hblank, hitem, rfl⟩ := hreader _ _ _ hx
    dsimp only at hmore
    obtain ⟨gap, b, r, hgap, rfl, hbyte⟩ := exists_past_blank hmore
    split at hbyte
    next hend =>
      cases hbyte
      refine ⟨blank, t ++ gap, hblank, .last hitem hgap, ?_⟩
      rw [eq_ofNat_of_glyph hend, List.append_assoc]
      rfl
    next =>
      split at hbyte
      next hcomma =>
        -- Another element follows the comma.
        obtain ⟨gap', c, u, hgap', rfl, hnext⟩ := exists_past_blank hbyte
        split at hnext
        · cases hnext
        · obtain ⟨⟨ys, _⟩, hys, hlast⟩ := bind_eq_ok hnext
          cases hlast
          obtain ⟨gap'', v, hgap'', hitems, hv⟩ := ih hys
          have hblanks : Blank (gap' ++ gap'') := List.forall_mem_append.mpr ⟨hgap', hgap''⟩
          refine ⟨blank, _, hblank, .more hitem hgap hblanks hitems, ?_⟩
          rw [eq_ofNat_of_glyph hcomma, hv]
          simp only [List.append_assoc, List.cons_append]
          rfl
      · cases hbyte

theorem list_of_readArray (hreader : ReadsOnly reader item) {bound : Nat} {s rest : Bytes}
    {xs : List α} (h : readArray reader bound s = .ok (xs, rest)) :
    ∃ u, SpellsList item 0x5B 0x5D xs (0x5B :: u) ∧ s = u ++ rest := by
  unfold readArray at h
  obtain ⟨gap, b, r, hgap, rfl, hbyte⟩ := exists_past_blank h
  split at hbyte
  next hend =>
    cases hbyte
    refine ⟨gap ++ [0x5D], .empty hgap, ?_⟩
    rw [eq_ofNat_of_glyph hend, List.append_assoc]
    rfl
  next =>
    obtain ⟨gap', u, hgap', hitems, hbytes⟩ := items_of_readItems hreader hbyte
    have hblanks : Blank (gap ++ gap') := List.forall_mem_append.mpr ⟨hgap, hgap'⟩
    refine ⟨_, .items hblanks hitems, ?_⟩
    rw [hbytes]
    simp only [List.append_assoc, List.cons_append, List.nil_append]

/-! ## Members -/

theorem member_of_readMember (hreader : ReadsOnly reader item) {s rest : Bytes} {m : String × α}
    (h : readMember reader s = .ok (m, rest)) :
    ∃ t, SpellsMember item m (0x22 :: t) ∧ s = t ++ rest := by
  unfold readMember at h
  obtain ⟨⟨name, after⟩, hname, hmore⟩ := bind_eq_ok h
  clear h
  obtain ⟨t, hspells, rfl⟩ := spells_of_readString hname
  dsimp only at hmore
  obtain ⟨gap, b, r, hgap, rfl, hbyte⟩ := exists_past_blank hmore
  split at hbyte
  next hcolon =>
    obtain ⟨⟨v, _⟩, hv, hlast⟩ := bind_eq_ok hbyte
    cases hlast
    obtain ⟨gap', u, hgap', hitem, rfl⟩ := hreader _ _ _ hv
    refine ⟨t ++ (gap ++ 0x3A :: (gap' ++ u)), .mk hspells hgap hgap' hitem, ?_⟩
    rw [eq_ofNat_of_glyph hcolon]
    simp only [List.append_assoc, List.cons_append]
    rfl
  · cases hbyte

theorem items_of_readMembers (hreader : ReadsOnly reader item) {count : Nat} {s rest : Bytes}
    {pairs : List (String × α)} (h : readMembers reader count s = .ok (pairs, rest)) :
    ∃ u, SpellsItems (SpellsMember item) pairs (0x22 :: u) ∧ s = u ++ 0x7D :: rest := by
  induction count generalizing s pairs with
  | zero => cases h
  | succ count ih =>
    unfold readMembers at h
    obtain ⟨⟨m, after⟩, hm, hmore⟩ := bind_eq_ok h
    clear h
    obtain ⟨t, hmember, rfl⟩ := member_of_readMember hreader hm
    dsimp only at hmore
    obtain ⟨gap, b, r, hgap, rfl, hbyte⟩ := exists_past_blank hmore
    split at hbyte
    next hend =>
      cases hbyte
      refine ⟨t ++ gap, .last hmember hgap, ?_⟩
      rw [eq_ofNat_of_glyph hend, List.append_assoc]
      rfl
    next =>
      split at hbyte
      next hcomma =>
        -- Another member follows the comma, so there is a quote ahead.
        obtain ⟨gap', c, u, hgap', rfl, hnext⟩ := exists_past_blank hbyte
        split at hnext
        next hquote =>
          obtain ⟨⟨ms, _⟩, hms, hlast⟩ := bind_eq_ok hnext
          cases hlast
          obtain ⟨v, hitems, rfl⟩ := ih hms
          refine ⟨t ++ (gap ++ 0x2C :: (gap' ++ 0x22 :: v)), .more hmember hgap hgap' hitems, ?_⟩
          rw [eq_ofNat_of_glyph hcomma, eq_ofNat_of_glyph hquote]
          simp only [List.append_assoc, List.cons_append]
          rfl
        · split at hnext <;> cases hnext
      · cases hbyte

theorem list_of_readObject (hreader : ReadsOnly reader item) {bound : Nat} {s rest : Bytes}
    {pairs : List (String × α)} (h : readObject reader bound s = .ok (pairs, rest)) :
    ∃ u, SpellsList (SpellsMember item) 0x7B 0x7D pairs (0x7B :: u) ∧ s = u ++ rest := by
  unfold readObject at h
  obtain ⟨gap, b, r, hgap, rfl, hbyte⟩ := exists_past_blank h
  split at hbyte
  next hquote =>
    obtain ⟨u, hitems, rfl⟩ := items_of_readMembers hreader hbyte
    refine ⟨_, .items hgap hitems, ?_⟩
    rw [eq_ofNat_of_glyph hquote]
    simp only [List.append_assoc, List.cons_append, List.nil_append]
    rfl
  next =>
    split at hbyte
    next hend =>
      cases hbyte
      refine ⟨gap ++ [0x7D], .empty hgap, ?_⟩
      rw [eq_ofNat_of_glyph hend, List.append_assoc]
      rfl
    · cases hbyte

end Lists

/-! ## Values as they are written -/

section Written

variable {β γ : Type} {item : β → Bytes → Prop} {item' : γ → Bytes → Prop} {f : γ → β}

theorem SpellsItems.exists_map (hitem : ∀ x t, item x t → ∃ w, item' w t ∧ f w = x) {xs : List β}
    {u : Bytes} (h : SpellsItems item xs u) : ∃ ws, SpellsItems item' ws u ∧ ws.map f = xs := by
  induction h with
  | last hx hblank =>
    obtain ⟨w, hw, rfl⟩ := hitem _ _ hx
    exact ⟨[w], .last hw hblank, rfl⟩
  | more hx hblank hblank' _ ih =>
    obtain ⟨w, hw, rfl⟩ := hitem _ _ hx
    obtain ⟨ws, hws, rfl⟩ := ih
    exact ⟨w :: ws, .more hw hblank hblank' hws, rfl⟩

/-- Where each element comes from another thing that is spelled the same way, the list does. -/
theorem SpellsList.exists_map (hitem : ∀ x t, item x t → ∃ w, item' w t ∧ f w = x)
    {«open» close : UInt8} {xs : List β} {t : Bytes} (h : SpellsList item «open» close xs t) :
    ∃ ws, SpellsList item' «open» close ws t ∧ ws.map f = xs := by
  cases h with
  | empty hblank => exact ⟨[], .empty hblank, rfl⟩
  | items hblank h =>
    obtain ⟨ws, hws, rfl⟩ := h.exists_map hitem
    exact ⟨ws, .items hblank hws, rfl⟩

end Written

theorem exists_written_member {depth : Nat} {m : String × Json} {t : Bytes}
    (h : SpellsMember (Denotes depth) m t) :
    ∃ w : String × Json, SpellsMember (Spells depth) w t ∧ (w.1, w.2.normal) = m := by
  obtain ⟨hname, hblank, hblank', ⟨written, hspells, rfl⟩⟩ := h
  exact ⟨_, .mk hname hblank hblank' hspells, rfl⟩

theorem readsOnly_value (bound depth : Nat) :
    ReadsOnly (readValue bound depth) (Denotes depth) := by
  have hscalar : ∀ {depth : Nat} {v : Json} {t : Bytes}, SpellsScalar v t → Denotes depth v t := by
    intro depth v t h
    refine ⟨v, ?_, normal_of_scalar h⟩
    cases depth with
    | zero => exact h
    | succ depth => exact .inl h
  induction depth with
  | zero =>
    intro s v rest h
    unfold readValue at h
    obtain ⟨blank, b, r, hblank, rfl, hbyte⟩ := exists_past_blank h
    -- No container may be opened at this depth.
    split at hbyte
    · cases hbyte
    split at hbyte
    · cases hbyte
    obtain ⟨t, hspells, hbytes⟩ := spells_of_readScalar hbyte
    exact ⟨blank, t, hblank, hscalar hspells, by rw [hbytes]⟩
  | succ depth ih =>
    intro s v rest h
    unfold readValue at h
    obtain ⟨blank, b, r, hblank, rfl, hbyte⟩ := exists_past_blank h
    split at hbyte
    next hopen =>
      obtain ⟨⟨xs, _⟩, hxs, hlast⟩ := bind_eq_ok hbyte
      cases hlast
      obtain ⟨u, hlist, rfl⟩ := list_of_readArray ih hxs
      obtain ⟨ws, hspells, rfl⟩ := hlist.exists_map (f := normal) fun _ _ hx => hx
      refine ⟨blank, 0x5B :: u, hblank, ⟨.array ws, .inr (.inl ⟨ws, rfl, hspells⟩), ?_⟩, ?_⟩
      · exact normal_array ws
      · rw [eq_ofNat_of_glyph hopen]
        rfl
    next =>
      split at hbyte
      next hopen =>
        obtain ⟨⟨pairs, _⟩, hpairs, hlast⟩ := bind_eq_ok hbyte
        cases hlast
        obtain ⟨u, hlist, rfl⟩ := list_of_readObject ih hpairs
        obtain ⟨ws, hspells, rfl⟩ := hlist.exists_map fun _ _ hm => exists_written_member hm
        refine ⟨blank, 0x7B :: u, hblank, ⟨.object ws, .inr (.inr ⟨ws, rfl, hspells⟩), ?_⟩, ?_⟩
        · exact normal_object ws
        · rw [eq_ofNat_of_glyph hopen]
          rfl
      next =>
        obtain ⟨t, hspells, hbytes⟩ := spells_of_readScalar hbyte
        exact ⟨blank, t, hblank, hscalar hspells, by rw [hbytes]⟩

/-! ## Objects and arrays of objects -/

theorem readMismatch_ne_ok {α : Type} {expected : Expected} {b : UInt8} {r : Bytes}
    {x : α × Bytes} : readMismatch expected b r ≠ .ok x := by
  unfold readMismatch
  split
  · nofun
  split
  · nofun
  intro h
  obtain ⟨_, -, hlast⟩ := bind_eq_ok h
  cases hlast

theorem readsOnly_map (bound depth : Nat) :
    ReadsOnly (readMap bound (depth + 1)) (DenotesMap depth) := by
  intro s members rest h
  unfold readMap at h
  obtain ⟨blank, b, r, hblank, rfl, hbyte⟩ := exists_past_blank h
  split at hbyte
  next hopen =>
    obtain ⟨⟨pairs, _⟩, hpairs, hlast⟩ := bind_eq_ok hbyte
    cases hlast
    obtain ⟨u, hlist, rfl⟩ := list_of_readObject (readsOnly_value bound depth) hpairs
    obtain ⟨ws, hspells, rfl⟩ := hlist.exists_map fun _ _ hm => exists_written_member hm
    refine ⟨blank, 0x7B :: u, hblank, ⟨ws, hspells, rfl⟩, ?_⟩
    rw [eq_ofNat_of_glyph hopen]
    rfl
  · exact absurd hbyte readMismatch_ne_ok

theorem readsOnly_maps (bound depth : Nat) :
    ReadsOnly (readMaps bound (depth + 2)) (SpellsList (DenotesMap depth) 0x5B 0x5D) := by
  intro s maps rest h
  unfold readMaps at h
  obtain ⟨blank, b, r, hblank, rfl, hbyte⟩ := exists_past_blank h
  split at hbyte
  next hopen =>
    obtain ⟨u, hlist, rfl⟩ := list_of_readArray (readsOnly_map bound depth) hbyte
    refine ⟨blank, 0x5B :: u, hblank, hlist, ?_⟩
    rw [eq_ofNat_of_glyph hopen]
    rfl
  · exact absurd hbyte readMismatch_ne_ok

/-! ## Whole texts -/

theorem read_of_document {α : Type} {reader : Reader α} {text : Bytes} {x : α}
    (h : document reader text = .ok x) : ∃ rest, reader text = .ok (x, rest) ∧ Blank rest := by
  unfold document at h
  obtain ⟨⟨_, rest⟩, hx, hend⟩ := bind_eq_ok (mapError_eq_ok h)
  obtain ⟨blank, hblank, hrest⟩ := exists_blank rest
  dsimp only at hend
  cases hskip : skipBlank rest with
  | cons b r =>
    rw [hskip] at hend
    cases hend
  | nil =>
    rw [hskip] at hend hrest
    cases hend
    rw [List.append_nil] at hrest
    exact ⟨rest, hx, hrest ▸ hblank⟩

theorem text_of_document {α : Type} {reader : Reader α} {item : α → Bytes → Prop}
    (hreader : ReadsOnly reader item) {text : Bytes} {x : α} (h : document reader text = .ok x) :
    ∃ blank t blank', Blank blank ∧ item x t ∧ Blank blank' ∧ text = blank ++ (t ++ blank') := by
  obtain ⟨blank', hx, hblank'⟩ := read_of_document h
  obtain ⟨blank, t, hblank, hitem, htext⟩ := hreader _ _ _ hx
  exact ⟨blank, t, blank', hblank, hitem, hblank', htext⟩

/-- Only texts of arrays of objects are read as the members of objects. -/
theorem rows_of_parseMaps {text : Bytes} {maps : List Members} (h : parseMaps text = .ok maps) :
    ∃ (rows : List (List (String × Json))) (blank t blank' : Bytes), Blank blank ∧
      Spells maxDepth (.array (rows.map .object)) t ∧ Blank blank' ∧
      text = blank ++ (t ++ blank') ∧
      maps = rows.map fun pairs => Keyed.ofPairs (pairs.map fun m => (m.1, m.2.normal)) := by
  obtain ⟨blank, t, blank', hblank, hlist, hblank', htext⟩ :=
    text_of_document (readsOnly_maps _ 125) h
  have hrow : ∀ members u, DenotesMap 125 members u → ∃ pairs, Spells 126 (.object pairs) u ∧
      Keyed.ofPairs (pairs.map fun m => (m.1, m.2.normal)) = members := by
    rintro _ u ⟨pairs, hpairs, rfl⟩
    exact ⟨pairs, .inr (.inr ⟨pairs, rfl, hpairs⟩), rfl⟩
  obtain ⟨rows, hrows, rfl⟩ := hlist.exists_map hrow
  have hobjects : SpellsList (Spells 126) 0x5B 0x5D (rows.map .object) t := by
    rw [← List.map_id rows] at hrows
    refine SpellsList.map ?_ hrows
    exact fun _ _ hu => hu
  exact ⟨rows, blank, t, blank', hblank, .inr (.inl ⟨_, rfl, hobjects⟩), hblank', htext, rfl⟩

end Reindex.Json
