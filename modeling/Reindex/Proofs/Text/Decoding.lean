import Mathlib.Data.List.Basic
import Mathlib.Data.List.Induction
import Reindex.Proofs.Text.Utf8

/-!
# What the decoder accepts

The decoder gives a text only for the bytes of that text.  The bytes of a character that is begun
are kept with what they promise: whatever may still come makes them the bytes of one character.
-/

namespace Reindex.Utf8

open Decoder

/-! ## The bytes of a character -/

theorem toNat_ofNat {n : Nat} (hlt : n < 0x110000) (hvalid : ¬(0xD800 ≤ n ∧ n ≤ 0xDFFF)) :
    (Char.ofNat n).toNat = n := by
  have h : n.isValidChar := by
    unfold Nat.isValidChar
    omega
  unfold Char.ofNat
  rw [dif_pos h]
  rfl

theorem continuation_eq_of_toNat {b : UInt8} (hlow : 0x80 ≤ b.toNat) (hhigh : b.toNat ≤ 0xBF) :
    continuation (b.toNat % 64) = b := by
  apply UInt8.toNat_inj.mp
  rw [toNat_continuation]
  omega

theorem continuation_mod (n : Nat) : continuation (n % 64) = continuation n := by
  unfold continuation
  rw [Nat.mod_mod]

theorem encodeChar_ofNat_two {a k : Nat} (ha : 2 ≤ a) (ha' : a < 0x20) (hk : k < 64) :
    encodeChar (Char.ofNat (a * 64 + k)) = [UInt8.ofNat (0xC0 + a), continuation k] := by
  have hcode : (Char.ofNat (a * 64 + k)).toNat = a * 64 + k := toNat_ofNat (by omega) (by omega)
  unfold encodeChar
  dsimp only
  rw [hcode, if_neg (by omega), if_pos (by omega), show (a * 64 + k) / 64 = a by omega,
    ← continuation_mod (a * 64 + k), show (a * 64 + k) % 64 = k by omega]

theorem encodeChar_ofNat_three {a k l : Nat} (ha : a < 0x10) (hk : k < 64) (hl : l < 64)
    (hlong : 0x20 ≤ a * 64 + k) (hvalid : ¬(0x360 ≤ a * 64 + k ∧ a * 64 + k < 0x380)) :
    encodeChar (Char.ofNat ((a * 64 + k) * 64 + l)) =
      [UInt8.ofNat (0xE0 + a), continuation k, continuation l] := by
  have hcode : (Char.ofNat ((a * 64 + k) * 64 + l)).toNat = (a * 64 + k) * 64 + l :=
    toNat_ofNat (by omega) (by omega)
  unfold encodeChar
  dsimp only
  rw [hcode, if_neg (by omega), if_neg (by omega), if_pos (by omega),
    show ((a * 64 + k) * 64 + l) / 4096 = a by omega,
    ← continuation_mod (((a * 64 + k) * 64 + l) / 64), ← continuation_mod ((a * 64 + k) * 64 + l),
    show ((a * 64 + k) * 64 + l) / 64 % 64 = k by omega,
    show ((a * 64 + k) * 64 + l) % 64 = l by omega]

theorem encodeChar_ofNat_four {a k l m : Nat} (hk : k < 64) (hl : l < 64) (hm : m < 64)
    (hlong : 0x10 ≤ a * 64 + k) (hlast : a * 64 + k < 0x110) :
    encodeChar (Char.ofNat (((a * 64 + k) * 64 + l) * 64 + m)) =
      [UInt8.ofNat (0xF0 + a), continuation k, continuation l, continuation m] := by
  have hcode : (Char.ofNat (((a * 64 + k) * 64 + l) * 64 + m)).toNat =
      ((a * 64 + k) * 64 + l) * 64 + m := toNat_ofNat (by omega) (by omega)
  unfold encodeChar
  dsimp only
  rw [hcode, if_neg (by omega), if_neg (by omega), if_neg (by omega),
    show (((a * 64 + k) * 64 + l) * 64 + m) / 262144 = a by omega,
    ← continuation_mod ((((a * 64 + k) * 64 + l) * 64 + m) / 4096),
    ← continuation_mod ((((a * 64 + k) * 64 + l) * 64 + m) / 64),
    ← continuation_mod (((a * 64 + k) * 64 + l) * 64 + m),
    show (((a * 64 + k) * 64 + l) * 64 + m) / 4096 % 64 = k by omega,
    show (((a * 64 + k) * 64 + l) * 64 + m) / 64 % 64 = l by omega,
    show (((a * 64 + k) * 64 + l) * 64 + m) % 64 = m by omega]

/-! ## Characters that are begun -/

/-- The bytes `read` begin a character, and every continuation that the decoder would take makes
them the bytes of the one that it would put out. -/
structure Begins (p : Partial) (read : Bytes) : Prop where
  owed : 1 ≤ p.owed
  low : 0x80 ≤ p.low
  high : p.high ≤ 0xBF
  completes : ∀ (k : Nat) (ks : List Nat), p.low ≤ 0x80 + k → 0x80 + k ≤ p.high →
    ks.length + 1 = p.owed → (∀ l ∈ ks, l < 64) →
    encodeChar (Char.ofNat (ks.foldl (fun n l => n * 64 + l) (p.code * 64 + k))) =
      read ++ (k :: ks).map continuation

theorem begins_two {b : Nat} (hlow : 0xC2 ≤ b) (hhigh : b < 0xE0) :
    Begins ⟨1, 0x80, 0xBF, b - 0xC0⟩ [UInt8.ofNat b] where
  owed := Nat.le_refl 1
  low := Nat.le_refl _
  high := Nat.le_refl _
  completes := by
    intro k ks hk hk' hlength _
    obtain rfl := List.eq_nil_of_length_eq_zero (Nat.succ.inj hlength)
    dsimp only at hk hk' ⊢
    rw [List.foldl_nil, encodeChar_ofNat_two (by omega) (by omega) (by omega),
      show 0xC0 + (b - 0xC0) = b by omega]
    rfl

/-- A first byte of three, with the range that the second one has. -/
theorem begins_three {b low high : Nat} (hlow : 0xE0 ≤ b) (hhigh : b < 0xF0)
    (hrange : 0x80 ≤ low ∧ high ≤ 0xBF)
    (hvalid : ∀ k, low ≤ 0x80 + k → 0x80 + k ≤ high →
      0x20 ≤ (b - 0xE0) * 64 + k ∧ ¬(0x360 ≤ (b - 0xE0) * 64 + k ∧ (b - 0xE0) * 64 + k < 0x380)) :
    Begins ⟨2, low, high, b - 0xE0⟩ [UInt8.ofNat b] where
  owed := Nat.le_add_left 1 _
  low := hrange.1
  high := hrange.2
  completes := by
    intro k ks hk hk' hlength hks
    obtain ⟨l, rfl⟩ := List.length_eq_one_iff.mp (Nat.succ.inj hlength)
    dsimp only at hk hk' ⊢
    obtain ⟨hlong, hsurrogate⟩ := hvalid k hk hk'
    rw [List.foldl_cons, List.foldl_nil, encodeChar_ofNat_three (by omega) (by omega)
      (hks l List.mem_cons_self) hlong hsurrogate, show 0xE0 + (b - 0xE0) = b by omega]
    rfl

theorem begins_four {b low high : Nat} (hlow : 0xF0 ≤ b) (hrange : 0x80 ≤ low ∧ high ≤ 0xBF)
    (hvalid : ∀ k, low ≤ 0x80 + k → 0x80 + k ≤ high →
      0x10 ≤ (b - 0xF0) * 64 + k ∧ (b - 0xF0) * 64 + k < 0x110) :
    Begins ⟨3, low, high, b - 0xF0⟩ [UInt8.ofNat b] where
  owed := Nat.le_add_left 1 _
  low := hrange.1
  high := hrange.2
  completes := by
    intro k ks hk hk' hlength hks
    obtain ⟨l, m, rfl⟩ := List.length_eq_two.mp (Nat.succ.inj hlength)
    dsimp only at hk hk' ⊢
    obtain ⟨hlong, hlast⟩ := hvalid k hk hk'
    rw [List.foldl_cons, List.foldl_cons, List.foldl_nil, encodeChar_ofNat_four (by omega)
      (hks l List.mem_cons_self) (hks m (List.mem_cons_of_mem _ List.mem_cons_self)) hlong hlast,
      show 0xF0 + (b - 0xF0) = b by omega]
    rfl

theorem begins_of_lead {b : Nat} {p : Partial} (h : lead? b = some p) :
    Begins p [UInt8.ofNat b] := by
  unfold lead? at h
  -- One case for each range of first bytes, in the order of the bytes.
  split at h
  · cases h
  split at h
  · cases h
    exact begins_two (by omega) (by omega)
  split at h
  next heq =>
    cases h
    subst heq
    exact begins_three (b := 0xE0) (by omega) (by omega) (by omega) fun k _ _ => by omega
  split at h
  next heq =>
    cases h
    subst heq
    exact begins_three (b := 0xED) (by omega) (by omega) (by omega) fun k _ _ => by omega
  split at h
  · cases h
    exact begins_three (by omega) (by omega) (by omega) fun k _ _ => by omega
  split at h
  next heq =>
    cases h
    subst heq
    exact begins_four (b := 0xF0) (by omega) (by omega) fun k _ _ => by omega
  split at h
  · cases h
    exact begins_four (by omega) (by omega) fun k _ _ => by omega
  split at h
  next heq =>
    cases h
    subst heq
    exact begins_four (b := 0xF4) (by omega) (by omega) fun k _ _ => by omega
  · cases h

/-- The next byte of a character that lacks more than one. -/
theorem Begins.snoc {p : Partial} {read : Bytes} (h : Begins p read) {b : UInt8}
    (hlow : p.low ≤ b.toNat) (hhigh : b.toNat ≤ p.high) (howed : 1 < p.owed) :
    Begins ⟨p.owed - 1, 0x80, 0xBF, p.code * 64 + b.toNat % 64⟩ (read ++ [b]) where
  owed := by
    dsimp only
    omega
  low := Nat.le_refl _
  high := Nat.le_refl _
  completes := by
    intro k ks hk hk' hlength hks
    have hlow' := h.low
    have hhigh' := h.high
    dsimp only at hk hk' hlength ⊢
    have hks' : ∀ l ∈ k :: ks, l < 64 := List.forall_mem_cons.mpr ⟨by omega, hks⟩
    have hcomplete := h.completes (b.toNat % 64) (k :: ks) (by omega) (by omega)
      (by rw [List.length_cons]; omega) hks'
    rw [List.foldl_cons] at hcomplete
    rw [hcomplete, List.map_cons, continuation_eq_of_toNat (by omega) (by omega), List.append_assoc]
    rfl

/-- The last byte of a character. -/
theorem Begins.complete {p : Partial} {read : Bytes} (h : Begins p read) {b : UInt8}
    (hlow : p.low ≤ b.toNat) (hhigh : b.toNat ≤ p.high) (howed : p.owed ≤ 1) :
    encodeChar (Char.ofNat (p.code * 64 + b.toNat % 64)) = read ++ [b] := by
  have hlow' := h.low
  have hhigh' := h.high
  have hone : p.owed = 1 := Nat.le_antisymm howed h.owed
  have hcomplete := h.completes (b.toNat % 64) [] (by omega) (by omega) hone.symm (by simp)
  rwa [List.foldl_nil, List.map_cons, List.map_nil,
    continuation_eq_of_toNat (by omega) (by omega)] at hcomplete

/-! ## What the decoder has read -/

/-- The decoder has read these bytes and marked none of them as malformed. -/
structure Tracks (read : Bytes) (cs : List Char) (d : Decoder) : Prop where
  done : d.done = (cs.map some).reverse
  bytes : match d.current with
    | none => read = encode cs
    | some p => ∃ begun, Begins p begun ∧ read = encode cs ++ begun

theorem encode_snoc (cs : List Char) (c : Char) :
    encode (cs ++ [c]) = encode cs ++ encodeChar c := by
  rw [encode_append]
  exact congrArg _ (List.append_nil _)

theorem done_snoc (cs : List Char) (c : Char) :
    some c :: (cs.map some).reverse = ((cs ++ [c]).map some).reverse := by
  rw [List.map_append, List.reverse_append]
  rfl

/-- Marks stay. -/
theorem done_suffix_feed (d : Decoder) (b : UInt8) : d.done <:+ (d.feed b).done := by
  have hstart : ∀ (d : Decoder) (n : Nat), d.done <:+ (d.start n).done := by
    intro d n
    unfold start
    split
    · exact List.suffix_cons _ _
    · split
      · exact List.suffix_rfl
      · exact List.suffix_cons _ _
  unfold feed
  dsimp only
  split
  · exact hstart d _
  · split
    · split
      · exact List.suffix_cons _ _
      · exact List.suffix_rfl
    · exact (List.suffix_cons none d.done).trans (hstart ⟨none :: d.done, none⟩ _)

/-- A first byte that is not marked. -/
theorem Tracks.start {read : Bytes} {cs : List Char} {d : Decoder} (h : Tracks read cs d)
    (hcurrent : d.current = none) {b : UInt8} (hmark : none ∉ (d.start b.toNat).done) :
    ∃ cs', Tracks (read ++ [b]) cs' (d.start b.toNat) := by
  have hread : read = encode cs := by
    have hbytes := h.bytes
    rwa [hcurrent] at hbytes
  unfold Decoder.start at hmark ⊢
  split at hmark
  next hascii =>
    rw [if_pos hascii]
    have hcode : (Char.ofNat b.toNat).toNat = b.toNat := toNat_ofNat (by omega) (by omega)
    have hbyte : encodeChar (Char.ofNat b.toNat) = [b] := by
      rw [encodeChar_of_lt (by omega), hcode, UInt8.ofNat_toNat]
    refine ⟨cs ++ [Char.ofNat b.toNat], ?_, ?_⟩
    · rw [h.done, done_snoc]
    · show read ++ [b] = _
      rw [encode_snoc, hbyte, hread]
  next hnot =>
    rw [if_neg hnot]
    split at hmark
    next p hlead =>
      refine ⟨cs, h.done, [b], ?_, ?_⟩
      · have hbegins := begins_of_lead hlead
        rwa [UInt8.ofNat_toNat] at hbegins
      · rw [hread]
    next => exact absurd List.mem_cons_self hmark

/-- One byte that is not marked. -/
theorem Tracks.feed {read : Bytes} {cs : List Char} {d : Decoder} (h : Tracks read cs d) {b : UInt8}
    (hmark : none ∉ (d.feed b).done) : ∃ cs', Tracks (read ++ [b]) cs' (d.feed b) := by
  unfold Decoder.feed at hmark ⊢
  cases hcurrent : d.current with
  | none =>
    rw [hcurrent] at hmark
    exact h.start hcurrent hmark
  | some p =>
    rw [hcurrent] at hmark
    have hbytes := h.bytes
    rw [hcurrent] at hbytes
    obtain ⟨begun, hbegins, hread⟩ := hbytes
    dsimp only at hmark ⊢
    by_cases hrange : p.low ≤ b.toNat ∧ b.toNat ≤ p.high
    · rw [if_pos hrange]
      by_cases howed : p.owed ≤ 1
      · -- The character is complete.
        rw [if_pos howed]
        refine ⟨cs ++ [Char.ofNat (p.code * 64 + b.toNat % 64)], ?_, ?_⟩
        · rw [h.done, done_snoc]
        · show read ++ [b] = _
          rw [encode_snoc, hbegins.complete hrange.1 hrange.2 howed, hread, List.append_assoc]
      · rw [if_neg howed]
        refine ⟨cs, h.done, begun ++ [b], ?_, ?_⟩
        · exact hbegins.snoc hrange.1 hrange.2 (by omega)
        · rw [hread, List.append_assoc]
    · -- A byte out of range leaves a mark, whatever it is itself.
      rw [if_neg hrange] at hmark
      exfalso
      apply hmark
      have hsuffix := done_suffix_feed ⟨none :: d.done, none⟩ b
      exact hsuffix.subset List.mem_cons_self

theorem tracks_foldl {bs : Bytes} (hmark : none ∉ (bs.foldl Decoder.feed ⟨[], none⟩).done) :
    ∃ cs, Tracks bs cs (bs.foldl Decoder.feed ⟨[], none⟩) := by
  -- Bytes come at the end, as the decoder takes them.
  induction bs using List.reverseRecOn with
  | nil => exact ⟨[], rfl, rfl⟩
  | append_singleton bs b ih =>
    rw [List.foldl_append, List.foldl_cons, List.foldl_nil] at hmark ⊢
    obtain ⟨cs, h⟩ := ih fun hmem => hmark ((done_suffix_feed _ b).subset hmem)
    exact h.feed hmark

theorem eq_map_some_of_mapM {output : List (Option Char)} {cs : List Char}
    (h : output.mapM id = some cs) : output = cs.map some := by
  induction output generalizing cs with
  | nil =>
    obtain rfl := Option.some.inj h
    rfl
  | cons o rest ih =>
    rw [List.mapM_cons] at h
    obtain ⟨c, rfl, hrest⟩ := Option.bind_eq_some_iff.mp h
    obtain ⟨cs', hcs', hcons⟩ := Option.bind_eq_some_iff.mp hrest
    obtain rfl := Option.some.inj hcons
    rw [ih hcs', List.map_cons]

/-- The decoder gives a text for its bytes alone. -/
theorem decode?_eq_some_iff {bs : Bytes} {s : String} : decode? bs = some s ↔ bs = utf8 s := by
  constructor
  · intro h
    obtain ⟨cs, hcs, rfl⟩ := Option.map_eq_some_iff.mp h
    have hdecode : decode bs = cs.map some := eq_map_some_of_mapM hcs
    have hnone : none ∉ decode bs := by
      rw [hdecode]
      simp
    unfold decode finish at hdecode hnone
    cases hcurrent : (bs.foldl Decoder.feed ⟨[], none⟩).current with
    | some p =>
      -- A character that is cut off is marked.
      rw [hcurrent] at hnone
      exact absurd (List.mem_reverse.mpr List.mem_cons_self) hnone
    | none =>
      rw [hcurrent] at hdecode hnone
      dsimp only at hdecode hnone
      rw [List.mem_reverse] at hnone
      obtain ⟨cs', htracks⟩ := tracks_foldl hnone
      have hbytes := htracks.bytes
      rw [hcurrent] at hbytes
      rw [htracks.done, List.reverse_reverse] at hdecode
      obtain rfl := (List.map_inj_right fun _ _ => Option.some.inj).mp hdecode
      unfold utf8
      rw [String.toList_ofList]
      exact hbytes
  · rintro rfl
    unfold utf8
    rw [decode?_encode, String.ofList_toList]

/-! ## Where characters start -/

/-- A byte that only continues a character. -/
def IsContinuation (b : UInt8) : Prop := 0x80 ≤ b.toNat ∧ b.toNat < 0xC0

theorem isContinuation_continuation (n : Nat) : IsContinuation (continuation n) := by
  unfold IsContinuation
  rw [toNat_continuation]
  omega

/-- The first byte of a character continues none, and the others do. -/
theorem exists_encodeChar_eq_cons (c : Char) :
    ∃ b tail, encodeChar c = b :: tail ∧ ¬IsContinuation b ∧ ∀ x ∈ tail, IsContinuation x := by
  have hlt := toNat_lt c
  have hlead : ∀ n, 0xC0 ≤ n → n < 256 → ¬IsContinuation (UInt8.ofNat n) := by
    intro n hn hbyte
    unfold IsContinuation
    rw [toNat_ofNat_of_lt hbyte]
    omega
  unfold encodeChar
  dsimp only
  by_cases hone : c.toNat < 0x80
  · rw [if_pos hone]
    refine ⟨_, [], rfl, ?_, by simp⟩
    unfold IsContinuation
    rw [toNat_ofNat_of_lt (by omega)]
    omega
  rw [if_neg hone]
  by_cases htwo : c.toNat < 0x800
  · rw [if_pos htwo]
    exact ⟨_, _, rfl, hlead _ (by omega) (by omega), by simp [isContinuation_continuation]⟩
  rw [if_neg htwo]
  by_cases hthree : c.toNat < 0x10000
  · rw [if_pos hthree]
    exact ⟨_, _, rfl, hlead _ (by omega) (by omega), by simp [isContinuation_continuation]⟩
  · rw [if_neg hthree]
    exact ⟨_, _, rfl, hlead _ (by omega) (by omega), by simp [isContinuation_continuation]⟩

/-- The bytes of one character do not start with those of another. -/
theorem encodeChar_append_inj {c d : Char} {xs ys : Bytes}
    (h : encodeChar c ++ xs = encodeChar d ++ ys) : c = d ∧ xs = ys := by
  have hsuffix : ∀ (d : Decoder) (bs : Bytes), d.done <:+ (bs.foldl Decoder.feed d).done := by
    intro d bs
    induction bs generalizing d with
    | nil => exact List.suffix_rfl
    | cons b rest ih => exact (done_suffix_feed d b).trans (ih _)
  -- The decoder puts the first character out before it takes the rest.
  have hfirst : ∀ (c : Char) (xs : Bytes),
      [some c] <:+ ((encodeChar c ++ xs).foldl Decoder.feed ⟨[], none⟩).done := by
    intro c xs
    rw [List.foldl_append, foldl_feed_encodeChar]
    exact hsuffix ⟨[some c], none⟩ xs
  have hd := hfirst d ys
  rw [← h] at hd
  have hsame : [some c] = [some d] := (List.suffix_of_suffix_length_le (hfirst c xs) hd
    (Nat.le_refl 1)).eq_of_length rfl
  obtain rfl := Option.some.inj (List.cons.inj hsame).1
  exact ⟨rfl, List.append_cancel_left h⟩

end Reindex.Utf8
