import Reindex.Proofs.Text.Utf8
import Reindex.Text.Ascii

/-!
# Percent-encoded texts

An encoded text stands for the bytes of the text that was encoded, so it determines that text; and
it consists of characters that may stand for themselves, percent signs and digits.
-/

namespace Reindex.Text

/-! ## One byte -/

theorem hexValue?_upperHexDigit (n : Nat) : hexValue? (upperHexDigit n) = some (n % 16) := by
  have hdigit : ∀ d, d < 16 → hexValue? (Nat.digitChar d).toUpper = some d := by decide
  exact hdigit (n % 16) (Nat.mod_lt n (by decide))

theorem percentDecode_cons_of_ne {c : Char} (h : c ≠ '%') (rest : List Char) :
    percentDecode (c :: rest) = Utf8.encodeChar c ++ percentDecode rest := by
  rw [percentDecode]
  rintro a b _ rfl
  exact absurd rfl h

theorem percentDecode_percentByte (b : UInt8) (rest : List Char) :
    percentDecode (percentByte b ++ rest) = b :: percentDecode rest := by
  -- The two digits are the quotient and the remainder by sixteen.
  have hbyte : UInt8.ofNat (b.toNat / 16 % 16 * 16 + b.toNat % 16) = b := by
    rw [Nat.mod_eq_of_lt (show b.toNat / 16 < 16 by have := b.toNat_lt; omega),
      Nat.div_add_mod' b.toNat 16, UInt8.ofNat_toNat]
  unfold percentByte
  change percentDecode ('%' :: upperHexDigit (b.toNat / 16) :: upperHexDigit b.toNat :: rest) = _
  rw [percentDecode, hexValue?_upperHexDigit, hexValue?_upperHexDigit]
  dsimp only
  rw [hbyte]

/-! ## Whole texts -/

section Texts

variable {keep : Char → Bool}

theorem percentDecode_percentChar (hkeep : keep '%' = false) (c : Char) (rest : List Char) :
    percentDecode (percentChar keep c ++ rest) = Utf8.encodeChar c ++ percentDecode rest := by
  unfold percentChar
  split
  next h =>
    refine percentDecode_cons_of_ne ?_ rest
    rintro rfl
    exact absurd (hkeep.symm.trans h) Bool.false_ne_true
  next =>
    -- The bytes of the character are taken one by one; which bytes they are does not matter.
    induction Utf8.encodeChar c with
    | nil => rfl
    | cons b bytes ih =>
      rw [List.flatMap_cons, List.append_assoc, percentDecode_percentByte, ih, List.cons_append]

/-- Decoding gives back the bytes of the text that was encoded. -/
theorem percentDecode_percentEncode (hkeep : keep '%' = false) (cs : List Char) :
    percentDecode (percentEncode keep cs) = Utf8.encode cs := by
  induction cs with
  | nil => rfl
  | cons c rest ih =>
    unfold percentEncode Utf8.encode at ih ⊢
    rw [List.flatMap_cons, percentDecode_percentChar hkeep, ih, List.flatMap_cons]

theorem percentEncode_eq_self {cs : List Char} (h : ∀ c ∈ cs, keep c = true) :
    percentEncode keep cs = cs := by
  induction cs with
  | nil => rfl
  | cons c rest ih =>
    obtain ⟨hc, hrest⟩ := List.forall_mem_cons.mp h
    unfold percentEncode at ih ⊢
    rw [List.flatMap_cons, ih hrest, percentChar, if_pos hc, List.singleton_append]

theorem percentEncode_ne_nil {cs : List Char} (h : cs ≠ []) : percentEncode keep cs ≠ [] := by
  obtain ⟨c, rest, rfl⟩ := List.exists_cons_of_ne_nil h
  unfold percentEncode percentChar
  rw [List.flatMap_cons]
  split
  · exact List.cons_ne_nil _ _
  · obtain ⟨b, bytes, hbytes⟩ := List.exists_cons_of_ne_nil (Utf8.encodeChar_ne_nil c)
    rw [hbytes]
    exact List.cons_ne_nil _ _

/-- The characters of an encoded text: those that may stand for themselves, percent signs and
digits. -/
theorem mem_percentEncode {cs : List Char} {x : Char} (h : x ∈ percentEncode keep cs) :
    keep x = true ∨ x = '%' ∨ ∃ n, x = upperHexDigit n := by
  obtain ⟨c, -, hx⟩ := List.mem_flatMap.mp h
  unfold percentChar at hx
  split at hx
  next hkeep => exact .inl (List.mem_singleton.mp hx ▸ hkeep)
  next =>
    obtain ⟨b, -, hx⟩ := List.mem_flatMap.mp hx
    unfold percentByte at hx
    simp only [List.mem_cons, List.not_mem_nil, or_false] at hx
    rcases hx with rfl | rfl | rfl
    · exact .inr (.inl rfl)
    · exact .inr (.inr ⟨_, rfl⟩)
    · exact .inr (.inr ⟨_, rfl⟩)

/-- A property of the digits, of the percent sign and of what may stand for itself holds of all the
characters of an encoded text. -/
theorem forall_mem_percentEncode {p : Char → Prop}
    (hkeep : ∀ c, keep c = true → p c) (hpercent : p '%')
    (hdigit : ∀ d, d < 16 → p (upperHexDigit d)) (cs : List Char) :
    ∀ x ∈ percentEncode keep cs, p x := by
  intro x hx
  rcases mem_percentEncode hx with h | rfl | ⟨n, rfl⟩
  · exact hkeep x h
  · exact hpercent
  · have hn := hdigit (n % 16) (Nat.mod_lt n (by decide))
    unfold upperHexDigit hexDigit at hn ⊢
    rwa [Nat.mod_mod] at hn

end Texts

end Reindex.Text
