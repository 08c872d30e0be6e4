import Reindex.Text.Utf8

/-!
# Texts by their bytes

The bytes of a text determine it: they are the ones in which the text itself is held.  The decoder
gives back the characters that the bytes were made from.
-/

namespace Reindex

namespace Utf8

theorem toNat_lt (c : Char) : c.toNat < 0x110000 := by
  have h := c.valid
  simp only [UInt32.isValidChar, Nat.isValidChar] at h
  change c.val.toNat < 0x110000
  omega

/-- The bytes of a character are those of the standard library. -/
theorem encodeChar_eq (c : Char) : encodeChar c = String.utf8EncodeChar c := by
  have hlt := toNat_lt c
  unfold encodeChar continuation String.utf8EncodeChar
  rw [show c.val.toNat = c.toNat from rfl]
  dsimp only
  -- Both cut the code points at the same places, and only their bounds are written differently.
  by_cases hone : c.toNat < 0x80
  · rw [if_pos hone, if_pos (show c.toNat ≤ 0x7F by omega)]
  rw [if_neg hone, if_neg (show ¬c.toNat ≤ 0x7F by omega)]
  by_cases htwo : c.toNat < 0x800
  · rw [if_pos htwo, if_pos (show c.toNat ≤ 0x7FF by omega),
      Nat.mod_eq_of_lt (show c.toNat / 64 < 0x20 by omega),
      Nat.add_comm 0xC0, Nat.add_comm 0x80]
  rw [if_neg htwo, if_neg (show ¬c.toNat ≤ 0x7FF by omega)]
  by_cases hthree : c.toNat < 0x10000
  · rw [if_pos hthree, if_pos (show c.toNat ≤ 0xFFFF by omega),
      Nat.mod_eq_of_lt (show c.toNat / 4096 < 0x10 by omega),
      Nat.add_comm 0xE0, Nat.add_comm 0x80, Nat.add_comm 0x80]
  · rw [if_neg hthree, if_neg (show ¬c.toNat ≤ 0xFFFF by omega),
      Nat.mod_eq_of_lt (show c.toNat / 262144 < 0x08 by omega),
      Nat.add_comm 0xF0, Nat.add_comm 0x80, Nat.add_comm 0x80, Nat.add_comm 0x80]

theorem encodeChar_ne_nil (c : Char) : encodeChar c ≠ [] := by
  rw [encodeChar_eq]
  exact String.utf8EncodeChar_ne_nil

theorem toNat_ofNat_of_lt {n : Nat} (h : n < 256) : (UInt8.ofNat n).toNat = n := by
  rw [UInt8.toNat_ofNat']
  exact Nat.mod_eq_of_lt h

theorem toNat_continuation (n : Nat) : (continuation n).toNat = 0x80 + n % 64 := by
  unfold continuation
  apply toNat_ofNat_of_lt
  omega

theorem encodeChar_of_lt {c : Char} (h : c.toNat < 0x80) :
    encodeChar c = [UInt8.ofNat c.toNat] := by
  unfold encodeChar
  dsimp only
  rw [if_pos h]

/-- The byte of an ASCII character is its code point; the bytes of all others lie above ASCII. -/
theorem toNat_of_mem_encodeChar {c : Char} {b : UInt8} (h : b ∈ encodeChar c) :
    b.toNat = c.toNat ∨ 0x80 ≤ b.toNat := by
  have hcontinuation : ∀ n, 0x80 ≤ (continuation n).toNat := by
    intro n
    rw [toNat_continuation]
    omega
  have hlt := toNat_lt c
  by_cases hone : c.toNat < 0x80
  · rw [encodeChar_of_lt hone, List.mem_singleton] at h
    rw [h, toNat_ofNat_of_lt (by omega)]
    exact .inl rfl
  apply Or.inr
  unfold encodeChar at h
  dsimp only at h
  rw [if_neg hone] at h
  by_cases htwo : c.toNat < 0x800
  · rw [if_pos htwo] at h
    simp only [List.mem_cons, List.not_mem_nil, or_false] at h
    rcases h with rfl | rfl
    · rw [toNat_ofNat_of_lt (by omega)]
      omega
    · exact hcontinuation _
  rw [if_neg htwo] at h
  by_cases hthree : c.toNat < 0x10000
  · rw [if_pos hthree] at h
    simp only [List.mem_cons, List.not_mem_nil, or_false] at h
    rcases h with rfl | rfl | rfl
    · rw [toNat_ofNat_of_lt (by omega)]
      omega
    all_goals exact hcontinuation _
  · rw [if_neg hthree] at h
    simp only [List.mem_cons, List.not_mem_nil, or_false] at h
    rcases h with rfl | rfl | rfl | rfl
    · rw [toNat_ofNat_of_lt (by omega)]
      omega
    all_goals exact hcontinuation _

theorem encode_append (cs ds : List Char) : encode (cs ++ ds) = encode cs ++ encode ds :=
  List.flatMap_append

theorem encode_cons_of_lt {c : Char} (h : c.toNat < 0x80) (cs : List Char) :
    encode (c :: cs) = UInt8.ofNat c.toNat :: encode cs := by
  change encodeChar c ++ encode cs = _
  rw [encodeChar_of_lt h, List.singleton_append]

theorem encode_of_ascii {cs : List Char} (h : ∀ c ∈ cs, c.toNat < 0x80) :
    encode cs = cs.map fun c => UInt8.ofNat c.toNat := by
  induction cs with
  | nil => rfl
  | cons c rest ih =>
    obtain ⟨hc, hrest⟩ := List.forall_mem_cons.mp h
    rw [encode_cons_of_lt hc, ih hrest, List.map_cons]

/-! ## Decoding -/

open Decoder

theorem not_surrogate (c : Char) : ¬(0xD800 ≤ c.toNat ∧ c.toNat ≤ 0xDFFF) := by
  have h := c.valid
  simp only [UInt32.isValidChar, Nat.isValidChar] at h
  change ¬(0xD800 ≤ c.val.toNat ∧ c.val.toNat ≤ 0xDFFF)
  omega

/-- A byte that the current character is waiting for. -/
theorem feed_continuation {done : List (Option Char)} {p : Partial} {n : Nat}
    (hlow : p.low ≤ 0x80 + n % 64) (hhigh : 0x80 + n % 64 ≤ p.high) :
    feed ⟨done, some p⟩ (continuation n) =
      if p.owed ≤ 1 then ⟨some (Char.ofNat (p.code * 64 + n % 64)) :: done, none⟩
      else ⟨done, some ⟨p.owed - 1, 0x80, 0xBF, p.code * 64 + n % 64⟩⟩ := by
  have hbits : (0x80 + n % 64) % 64 = n % 64 := by omega
  unfold feed
  simp only [toNat_continuation, hbits]
  rw [if_pos ⟨hlow, hhigh⟩]

theorem feed_lead {done : List (Option Char)} {b : Nat} {p : Partial} (hb : b < 256)
    (hlead : lead? b = some p) : feed ⟨done, none⟩ (UInt8.ofNat b) = ⟨done, some p⟩ := by
  have hhigh : ¬b < 0x80 := by
    intro hlow
    unfold lead? at hlead
    rw [if_pos (by omega)] at hlead
    cases hlead
  unfold feed start
  simp only [toNat_ofNat_of_lt hb]
  rw [if_neg hhigh, hlead]

/-- The first byte of a character of three bytes. -/
theorem exists_lead_three {n : Nat} (hlow : 0x800 ≤ n) (hhigh : n < 0x10000)
    (hvalid : ¬(0xD800 ≤ n ∧ n ≤ 0xDFFF)) :
    ∃ p, lead? (0xE0 + n / 4096) = some p ∧ p.owed = 2 ∧ p.code = n / 4096 ∧
      p.low ≤ 0x80 + n / 64 % 64 ∧ 0x80 + n / 64 % 64 ≤ p.high := by
  by_cases hfirst : n / 4096 = 0
  · have hlead : lead? (0xE0 + n / 4096) = some ⟨2, 0xA0, 0xBF, 0⟩ := by
      rw [hfirst]
      rfl
    have hge : 0xA0 ≤ 0x80 + n / 64 % 64 := by omega
    have hle : 0x80 + n / 64 % 64 ≤ 0xBF := by omega
    exact ⟨_, hlead, rfl, hfirst.symm, hge, hle⟩
  by_cases hlast : n / 4096 = 0xD
  · have hlead : lead? (0xE0 + n / 4096) = some ⟨2, 0x80, 0x9F, 0xD⟩ := by
      rw [hlast]
      rfl
    -- The upper half of this block is left to the surrogates.
    have hle : 0x80 + n / 64 % 64 ≤ 0x9F := by omega
    exact ⟨_, hlead, rfl, hlast.symm, Nat.le_add_right .., hle⟩
  · have hlead : lead? (0xE0 + n / 4096) = some ⟨2, 0x80, 0xBF, n / 4096⟩ := by
      unfold lead?
      rw [if_neg (by omega), if_neg (by omega), if_neg (by omega), if_neg (by omega),
        if_pos (by omega), Nat.add_sub_cancel_left]
    have hle : 0x80 + n / 64 % 64 ≤ 0xBF := by omega
    exact ⟨_, hlead, rfl, rfl, Nat.le_add_right .., hle⟩

theorem exists_lead_four {n : Nat} (hlow : 0x10000 ≤ n) (hhigh : n < 0x110000) :
    ∃ p, lead? (0xF0 + n / 262144) = some p ∧ p.owed = 3 ∧ p.code = n / 262144 ∧
      p.low ≤ 0x80 + n / 4096 % 64 ∧ 0x80 + n / 4096 % 64 ≤ p.high := by
  by_cases hfirst : n / 262144 = 0
  · have hlead : lead? (0xF0 + n / 262144) = some ⟨3, 0x90, 0xBF, 0⟩ := by
      rw [hfirst]
      rfl
    have hge : 0x90 ≤ 0x80 + n / 4096 % 64 := by omega
    have hle : 0x80 + n / 4096 % 64 ≤ 0xBF := by omega
    exact ⟨_, hlead, rfl, hfirst.symm, hge, hle⟩
  by_cases hlast : n / 262144 = 4
  · have hlead : lead? (0xF0 + n / 262144) = some ⟨3, 0x80, 0x8F, 4⟩ := by
      rw [hlast]
      rfl
    -- The code points end in the middle of this block.
    have hle : 0x80 + n / 4096 % 64 ≤ 0x8F := by omega
    exact ⟨_, hlead, rfl, hlast.symm, Nat.le_add_right .., hle⟩
  · have hlead : lead? (0xF0 + n / 262144) = some ⟨3, 0x80, 0xBF, n / 262144⟩ := by
      unfold lead?
      rw [if_neg (by omega), if_neg (by omega), if_neg (by omega), if_neg (by omega),
        if_neg (by omega), if_neg (by omega), if_pos (by omega), Nat.add_sub_cancel_left]
    have hle : 0x80 + n / 4096 % 64 ≤ 0xBF := by omega
    exact ⟨_, hlead, rfl, rfl, Nat.le_add_right .., hle⟩

/-- The decoder puts out a character for its bytes. -/
theorem foldl_feed_encodeChar (c : Char) (done : List (Option Char)) :
    (encodeChar c).foldl feed ⟨done, none⟩ = ⟨some c :: done, none⟩ := by
  have hlt := toNat_lt c
  have hcode : ∀ n, n = c.toNat → Char.ofNat n = c := fun n hn => hn ▸ Char.ofNat_toNat c
  unfold encodeChar
  dsimp only
  by_cases hone : c.toNat < 0x80
  · rw [if_pos hone]
    unfold List.foldl feed start
    simp only [toNat_ofNat_of_lt (show c.toNat < 256 by omega)]
    rw [if_pos hone, Char.ofNat_toNat, List.foldl_nil]
  rw [if_neg hone]
  by_cases htwo : c.toNat < 0x800
  · have hlead : lead? (0xC0 + c.toNat / 64) = some ⟨1, 0x80, 0xBF, c.toNat / 64⟩ := by
      unfold lead?
      rw [if_neg (by omega), if_pos (by omega), Nat.add_sub_cancel_left]
    rw [if_pos htwo, List.foldl_cons, feed_lead (by omega) hlead, List.foldl_cons,
      feed_continuation (by dsimp only; omega) (by dsimp only; omega), List.foldl_nil]
    simp only [Nat.le_refl, if_true]
    rw [hcode _ (by omega)]
  rw [if_neg htwo]
  by_cases hthree : c.toNat < 0x10000
  · obtain ⟨⟨owed, low, high, code⟩, hlead, howed, hbits, hlow, hhigh⟩ :=
      exists_lead_three (show 0x800 ≤ c.toNat by omega) hthree (not_surrogate c)
    dsimp only at howed hbits
    subst howed hbits
    rw [if_pos hthree, List.foldl_cons, feed_lead (by omega) hlead, List.foldl_cons,
      feed_continuation hlow hhigh, if_neg (show ¬2 ≤ 1 by decide), List.foldl_cons,
      feed_continuation (by dsimp only; omega) (by dsimp only; omega), List.foldl_nil]
    simp only [Nat.reduceSub, Nat.le_refl, if_true]
    rw [hcode _ (by omega)]
  · obtain ⟨⟨owed, low, high, code⟩, hlead, howed, hbits, hlow, hhigh⟩ :=
      exists_lead_four (show 0x10000 ≤ c.toNat by omega) hlt
    dsimp only at howed hbits
    subst howed hbits
    rw [if_neg hthree, List.foldl_cons, feed_lead (by omega) hlead, List.foldl_cons,
      feed_continuation hlow hhigh, if_neg (show ¬3 ≤ 1 by decide), List.foldl_cons,
      feed_continuation (by dsimp only; omega) (by dsimp only; omega),
      if_neg (show ¬3 - 1 ≤ 1 by decide),
      List.foldl_cons, feed_continuation (by dsimp only; omega) (by dsimp only; omega),
      List.foldl_nil]
    simp only [Nat.reduceSub, Nat.le_refl, if_true]
    rw [hcode _ (by omega)]

theorem decode_encode (cs : List Char) : decode (encode cs) = cs.map some := by
  -- The decoder stands between two characters after each of them.
  have hfold : ∀ done, (encode cs).foldl feed ⟨done, none⟩ =
      ⟨(cs.map some).reverse ++ done, none⟩ := by
    unfold encode
    induction cs with
    | nil => exact fun done => rfl
    | cons c rest ih =>
      intro done
      rw [List.flatMap_cons, List.foldl_append, foldl_feed_encodeChar, ih, List.map_cons,
        List.reverse_cons, List.append_assoc, List.singleton_append]
  unfold decode
  rw [hfold, List.append_nil]
  exact List.reverse_reverse _

/-- Bytes that spell characters are decoded to these characters. -/
theorem decode?_encode (cs : List Char) : decode? (encode cs) = some (String.ofList cs) := by
  have hmap : ∀ l : List Char, (l.map some).mapM id = some l := by
    intro l
    induction l with
    | nil => rfl
    | cons c rest ih =>
      rw [List.map_cons, List.mapM_cons, ih]
      rfl
  unfold decode?
  rw [decode_encode, hmap, Option.map_some]

end Utf8

/-- The bytes of a text are those in which it is held. -/
theorem toByteArray_utf8 (s : String) : (utf8 s).toByteArray = s.toByteArray := by
  have hbytes : utf8 s = s.toList.flatMap String.utf8EncodeChar := by
    unfold utf8 Utf8.encode
    exact congrArg s.toList.flatMap (funext Utf8.encodeChar_eq)
  rw [hbytes]
  change s.toList.utf8Encode = s.toByteArray
  rw [← String.toByteArray_ofList, String.ofList_toList]

theorem utf8_injective {s t : String} (h : utf8 s = utf8 t) : s = t := by
  rw [← String.toByteArray_inj, ← toByteArray_utf8, ← toByteArray_utf8, h]

end Reindex
