import Reindex.Proofs.Json.Spelling
import Reindex.Proofs.Text.Utf8

/-!
# Reading strings, numbers and names

Every text of a value without parts is read as that value.  What comes after a text matters to a
number only, which ends where no digit follows; `Ends` is what all that can follow a value has in
common.
-/

namespace Reindex.Json

/-! ## Bytes -/

theorem toNat_glyph (b : UInt8) : (glyph b).toNat = b.toNat := UInt8.toNat_toUInt32 b

theorem glyph_ne_of_toNat_ne {b : UInt8} {c : Char} (h : b.toNat ≠ c.toNat) : glyph b ≠ c := by
  intro heq
  apply h
  rw [← toNat_glyph, heq]

theorem glyph_ofNat_toNat {c : Char} (h : c.toNat < 0x100) : glyph (UInt8.ofNat c.toNat) = c := by
  rw [← Char.toNat_inj, toNat_glyph, Utf8.toNat_ofNat_of_lt h]

theorem skipBlank_append {t : Bytes} (h : Blank t) (rest : Bytes) :
    skipBlank (t ++ rest) = skipBlank rest :=
  List.dropWhile_append_of_pos h

theorem skipBlank_cons {b : UInt8} (h : isBlankByte b = false) (rest : Bytes) :
    skipBlank (b :: rest) = b :: rest := by
  unfold skipBlank
  rw [List.dropWhile_cons_of_neg (by rw [h]; decide)]

/-- What can follow a value: the end, a blank, a comma or a closing bracket. -/
def Ends : Bytes → Prop
  | [] => True
  | b :: _ => isBlankByte b = true ∨ b = 0x2C ∨ b = 0x5D ∨ b = 0x7D

theorem Ends.append {blank rest : Bytes} (hblank : Blank blank) (hrest : Ends rest) :
    Ends (blank ++ rest) := by
  cases blank with
  | nil => exact hrest
  | cons b blank => exact .inl (hblank b List.mem_cons_self)

theorem Ends.toNat {b : UInt8} {rest : Bytes} (h : Ends (b :: rest)) :
    b.toNat ≤ 0x20 ∨ b.toNat = 0x2C ∨ b.toNat = 0x5D ∨ b.toNat = 0x7D := by
  rcases h with h | rfl | rfl | rfl
  · unfold isBlankByte at h
    simp only [Bool.or_eq_true, beq_iff_eq] at h
    rcases h with ((rfl | rfl) | rfl) | rfl
    all_goals decide
  all_goals decide

theorem isDigitByte_eq_true_iff {b : UInt8} :
    isDigitByte b = true ↔ 0x30 ≤ b.toNat ∧ b.toNat ≤ 0x39 := by
  unfold isDigitByte
  rw [Bool.and_eq_true, decide_eq_true_eq, decide_eq_true_eq]
  exact Iff.rfl

theorem glyph_ne_of_digit {b : UInt8} (h : isDigitByte b = true) {c : Char}
    (hc : c.toNat < 0x30 ∨ 0x39 < c.toNat) : glyph b ≠ c := by
  rw [isDigitByte_eq_true_iff] at h
  apply glyph_ne_of_toNat_ne
  omega

theorem Ends.not_digit {b : UInt8} {rest : Bytes} (h : Ends (b :: rest)) :
    isDigitByte b = false := by
  rw [Bool.eq_false_iff, ne_eq, isDigitByte_eq_true_iff]
  have hb := h.toNat
  omega

/-! ## Strings -/

/-- A byte that stands for itself within a string. -/
def Ordinary (b : UInt8) : Prop := 0x20 ≤ b.toNat ∧ b.toNat ≠ 0x22 ∧ b.toNat ≠ 0x5C

theorem stringStep_ordinary {b : UInt8} (h : Ordinary b) (content : Bytes) :
    stringStep content .plain b = .ok (.more .plain (b :: content)) := by
  obtain ⟨hcontrol, hquote, hbackslash⟩ := h
  have hlow : ¬b < 0x20 := by
    rw [UInt8.lt_iff_toNat_lt]
    exact Nat.not_lt.mpr hcontrol
  unfold stringStep
  rw [if_neg (glyph_ne_of_toNat_ne hquote), if_neg (glyph_ne_of_toNat_ne hbackslash), if_neg hlow]

theorem readString_ordinary {t : Bytes} (h : ∀ b ∈ t, Ordinary b) (content rest : Bytes) :
    readString content .plain (t ++ rest) = readString (t.reverse ++ content) .plain rest := by
  induction t generalizing content with
  | nil => rfl
  | cons b t ih =>
    obtain ⟨hb, ht⟩ := List.forall_mem_cons.mp h
    rw [List.cons_append, readString, stringStep_ordinary hb]
    dsimp only
    rw [ih ht, List.reverse_cons, List.append_assoc, List.singleton_append]

theorem ordinary_of_mem_encodeChar {c : Char} (hcontrol : 0x20 ≤ c.toNat) (hquote : c ≠ '"')
    (hbackslash : c ≠ '\\') : ∀ b ∈ Utf8.encodeChar c, Ordinary b := by
  intro b hb
  have hquote' : c.toNat ≠ 0x22 := fun h => hquote (Char.toNat_inj.mp h)
  have hbackslash' : c.toNat ≠ 0x5C := fun h => hbackslash (Char.toNat_inj.mp h)
  rcases Utf8.toNat_of_mem_encodeChar hb with h | h
  · rw [Ordinary, h]
    exact ⟨hcontrol, hquote', hbackslash'⟩
  · unfold Ordinary
    omega

theorem readString_unit {a b c d : UInt8} {n : Nat} (h : unit? a b c d = some n)
    (content : Bytes) (lead : Option Nat) (rest : Bytes) :
    readString content (.hex lead 0 (some 0)) (a :: b :: c :: d :: rest) =
      match finishHex content lead (some n) with
      | .error cause => faultAt cause rest
      | .ok .closed => finishString content.reverse rest
      | .ok (.more mode content) => readString content mode rest := by
  unfold unit? at h
  simp only [Option.bind_eq_bind, Option.bind_eq_some_iff, Option.some.injEq] at h
  obtain ⟨a', ha, b', hb, c', hc, d', hd, rfl⟩ := h
  cases hfinish : finishHex content lead (some (((a' * 16 + b') * 16 + c') * 16 + d')) with
  | error cause =>
    simp only [readString, stringStep, ha, hb, hc, hd, Option.bind_some, Option.map_some,
      Nat.zero_mul, Nat.zero_add, Nat.reduceAdd, Nat.reduceLT, if_true, if_false, Nat.lt_irrefl,
      hfinish]
  | ok step =>
    cases step <;> simp only [readString, stringStep, ha, hb, hc, hd, Option.bind_some,
      Option.map_some, Nat.zero_mul, Nat.zero_add, Nat.reduceAdd, Nat.reduceLT, if_true, if_false,
      Nat.lt_irrefl, hfinish]

theorem readString_char {c : Char} {t : Bytes} (h : SpellsChar c t) (content rest : Bytes) :
    readString content .plain (t ++ rest) =
      readString ((Utf8.encodeChar c).reverse ++ content) .plain rest := by
  cases h with
  | itself hcontrol hquote hbackslash =>
    exact readString_ordinary (ordinary_of_mem_encodeChar hcontrol hquote hbackslash) content rest
  | short h =>
    simp only [shortEscapes, List.mem_cons, Prod.mk.injEq, List.not_mem_nil, or_false] at h
    rcases h with ⟨rfl, rfl⟩ | ⟨rfl, rfl⟩ | ⟨rfl, rfl⟩ | ⟨rfl, rfl⟩ | ⟨rfl, rfl⟩ | ⟨rfl, rfl⟩ |
      ⟨rfl, rfl⟩ | ⟨rfl, rfl⟩
    all_goals rfl
  | @unit a b c d n h hhigh hlow =>
    -- The backslash and the letter lead to the four digits.
    change readString content (.hex none 0 (some 0)) (a :: b :: c :: d :: rest) = _
    rw [readString_unit h, finishHex, if_neg (by rw [hlow]; decide), if_neg (by rw [hhigh]; decide)]
  | @pair a b c d a' b' c' d' high low h hhigh h' hlow =>
    change readString content (.hex none 0 (some 0))
      (a :: b :: c :: d :: 0x5C :: 0x75 :: a' :: b' :: c' :: d' :: rest) = _
    have hnot : Text.isLowSurrogate high = false := by
      unfold Text.isHighSurrogate at hhigh
      unfold Text.isLowSurrogate
      simp only [Bool.and_eq_true, decide_eq_true_eq, Bool.and_eq_false_iff,
        decide_eq_false_iff_not]
        at hhigh ⊢
      omega
    rw [readString_unit h, finishHex, if_neg (by rw [hnot]; decide), if_pos hhigh]
    change readString content (.hex (some high) 0 (some 0)) (a' :: b' :: c' :: d' :: rest) = _
    rw [readString_unit h', finishHex, if_pos hlow]

theorem readString_chars {cs : List Char} {t : Bytes} (h : SpellsChars cs t)
    (content rest : Bytes) :
    readString content .plain (t ++ rest) =
      readString ((Utf8.encode cs).reverse ++ content) .plain rest := by
  induction h generalizing content with
  | nil => rfl
  | @cons c cs t u hchar hrest ih =>
    have hencode : Utf8.encode (c :: cs) = Utf8.encodeChar c ++ Utf8.encode cs := rfl
    rw [List.append_assoc, readString_char hchar, ih, hencode, List.reverse_append,
      List.append_assoc]

/-- A string is read after its opening quote. -/
theorem readString_of_spells {s : String} {t : Bytes} (h : SpellsString s t) (rest : Bytes) :
    ∃ u, t = 0x22 :: u ∧ readString [] .plain (u ++ rest) = .ok (s, rest) := by
  obtain ⟨body, hbody, rfl⟩ := h
  refine ⟨_, rfl, ?_⟩
  rw [List.append_assoc, readString_chars hbody, List.append_nil]
  change finishString (Utf8.encode s.toList).reverse.reverse rest = _
  rw [List.reverse_reverse, finishString, Utf8.decode?_encode, String.ofList_toList]

/-! ## Numbers -/

/-- No digit comes next. -/
def NoDigit : Bytes → Prop
  | [] => True
  | b :: _ => isDigitByte b = false

/-- Neither a digit nor a point comes next. -/
def PastFraction : Bytes → Prop
  | [] => True
  | b :: _ => isDigitByte b = false ∧ glyph b ≠ '.'

theorem Ends.pastFraction {rest : Bytes} (h : Ends rest) : PastFraction rest := by
  cases rest with
  | nil => trivial
  | cons b rest =>
    have hb := h.toNat
    have hpoint : glyph b ≠ '.' := by
      apply glyph_ne_of_toNat_ne
      change b.toNat ≠ 0x2E
      omega
    exact ⟨h.not_digit, hpoint⟩

theorem PastFraction.noDigit {rest : Bytes} (h : PastFraction rest) : NoDigit rest := by
  cases rest with
  | nil => trivial
  | cons b rest => exact h.1

theorem toNat_digit {d : Nat} (h : d < 10) : (UInt8.ofNat (0x30 + d)).toNat = 0x30 + d :=
  Utf8.toNat_ofNat_of_lt (by omega)

theorem isDigitByte_digit {d : Nat} (h : d < 10) :
    isDigitByte (UInt8.ofNat (0x30 + d)) = true := by
  rw [isDigitByte_eq_true_iff, toNat_digit h]
  omega

theorem digitValue_digit {d : Nat} (h : d < 10) : digitValue (UInt8.ofNat (0x30 + d)) = d := by
  unfold digitValue
  rw [toNat_digit h]
  omega

theorem readDigits_digitBytes {ds : List Nat} {rest : Bytes} (h : ∀ d ∈ ds, d < 10)
    (hrest : NoDigit rest) : readDigits (digitBytes ds ++ rest) = (ds, rest) := by
  have hdigits : ∀ b ∈ digitBytes ds, isDigitByte b = true := by
    intro b hb
    obtain ⟨d, hd, rfl⟩ := List.mem_map.mp hb
    exact isDigitByte_digit (h d hd)
  have hstop : rest.takeWhile isDigitByte = [] ∧ rest.dropWhile isDigitByte = rest := by
    cases rest with
    | nil => exact ⟨rfl, rfl⟩
    | cons b rest =>
      have hb : isDigitByte b = false := hrest
      exact ⟨List.takeWhile_cons_of_neg (by rw [hb]; decide),
        List.dropWhile_cons_of_neg (by rw [hb]; decide)⟩
  have hvalues : (digitBytes ds).map digitValue = ds := by
    unfold digitBytes
    rw [List.map_map]
    exact (List.map_congr_left fun d hd => digitValue_digit (h d hd)).trans (List.map_id ds)
  unfold readDigits
  rw [List.takeWhile_append_of_pos hdigits, List.dropWhile_append_of_pos hdigits, hstop.1,
    hstop.2, List.append_nil, hvalues]

theorem readWhole_of_whole {ds : List Nat} {rest : Bytes} (h : Whole ds) (hrest : NoDigit rest) :
    readWhole (digitBytes ds ++ rest) = .ok (ds, rest) := by
  obtain ⟨⟨hne, hdigits⟩, hzero⟩ := h
  cases ds with
  | nil => exact absurd rfl hne
  | cons d ds =>
    obtain ⟨hd, hds⟩ := List.forall_mem_cons.mp hdigits
    by_cases hd0 : d = 0
    · -- A zero stands alone.
      obtain ⟨rfl, rfl⟩ := List.cons.inj (hzero (congrArg some hd0))
      change readWhole (0x30 :: rest) = .ok ([0], rest)
      unfold readWhole
      dsimp only
      rw [if_pos (by decide)]
      cases rest with
      | nil => rfl
      | cons b rest =>
        have hb : isDigitByte b = false := hrest
        dsimp only
        rw [if_neg (by rw [hb]; decide)]
    · have hfirst : glyph (UInt8.ofNat (0x30 + d)) ≠ '0' := by
        apply glyph_ne_of_toNat_ne
        rw [toNat_digit hd]
        change 0x30 + d ≠ 0x30
        omega
      change readWhole (UInt8.ofNat (0x30 + d) :: (digitBytes ds ++ rest)) = _
      unfold readWhole
      dsimp only
      rw [if_neg hfirst, if_pos (isDigitByte_digit hd), readDigits_digitBytes hds hrest,
        digitValue_digit hd]

theorem readFraction_of_spells {fraction : Option (List Nat)} {t rest : Bytes}
    (h : SpellsFraction fraction t) (hrest : PastFraction rest) :
    readFraction (t ++ rest) = .ok (fraction, rest) := by
  cases h with
  | none =>
    cases rest with
    | nil => rfl
    | cons b rest =>
      change readFraction (b :: rest) = _
      rw [readFraction, if_neg hrest.2]
  | @some ds h =>
    change readFraction (0x2E :: (digitBytes ds ++ rest)) = _
    rw [readFraction, if_pos (by decide), readDigits_digitBytes h.2 hrest.noDigit]
    cases ds with
    | nil => exact absurd rfl h.1
    | cons d ds => rfl

theorem readExponentSign_of_spells {up : Bool} {sign : Bytes} (h : SpellsSign up sign)
    {d : Nat} (hd : d < 10) (rest : Bytes) :
    readExponentSign (sign ++ UInt8.ofNat (0x30 + d) :: rest) =
      (up, UInt8.ofNat (0x30 + d) :: rest) := by
  cases h with
  | bare =>
    have hdigit := isDigitByte_digit hd
    rw [List.nil_append, readExponentSign, if_neg (glyph_ne_of_digit hdigit (by decide)),
      if_neg (glyph_ne_of_digit hdigit (by decide))]
  | up => rfl
  | down => rfl

theorem readExponent_of_spells {exponent : Option (Bool × List Nat)} {t rest : Bytes}
    (h : SpellsExponent exponent t) (hrest : Ends rest) :
    readExponent (t ++ rest) = .ok (exponent, rest) := by
  cases h with
  | none =>
    cases rest with
    | nil => rfl
    | cons b rest =>
      have hb := hrest.toNat
      have hlower : glyph b ≠ 'e' := by
        apply glyph_ne_of_toNat_ne
        change b.toNat ≠ 0x65
        omega
      have hupper : glyph b ≠ 'E' := by
        apply glyph_ne_of_toNat_ne
        change b.toNat ≠ 0x45
        omega
      change readExponent (b :: rest) = _
      rw [readExponent, if_neg (by simp [hlower, hupper])]
  | @some letter hletter up sign hsign ds h =>
    obtain ⟨hne, hdigits⟩ := h
    cases ds with
    | nil => exact absurd rfl hne
    | cons d ds =>
      obtain ⟨hd, hds⟩ := List.forall_mem_cons.mp hdigits
      have hglyph : (glyph letter = 'e' || glyph letter = 'E') = true := by
        rcases hletter with rfl | rfl <;> decide
      have hread := readDigits_digitBytes hds hrest.pastFraction.noDigit
      have hsignRead : readExponentSign (sign ++ (digitBytes (d :: ds) ++ rest)) =
          (up, UInt8.ofNat (0x30 + d) :: (digitBytes ds ++ rest)) :=
        readExponentSign_of_spells hsign hd _
      rw [List.cons_append, List.append_assoc, readExponent, if_pos hglyph, hsignRead]
      dsimp only
      rw [if_pos (isDigitByte_digit hd), hread, digitValue_digit hd]

theorem SpellsExponent.pastFraction {exponent : Option (Bool × List Nat)} {t rest : Bytes}
    (h : SpellsExponent exponent t) (hrest : Ends rest) : PastFraction (t ++ rest) := by
  cases h with
  | none => exact hrest.pastFraction
  | some hletter => rcases hletter with rfl | rfl <;> exact ⟨by decide, by decide⟩

theorem SpellsFraction.noDigit {fraction : Option (List Nat)} {t rest : Bytes}
    (h : SpellsFraction fraction t) (hrest : PastFraction rest) : NoDigit (t ++ rest) := by
  cases h with
  | none => exact hrest.noDigit
  | some => exact (by decide : isDigitByte 0x2E = false)

/-- A number is read after its sign. -/
theorem readUnsigned_of_spells {l : Number.Literal} {n : Number} {t rest : Bytes}
    (h : SpellsUnsigned l t) (hvalue : l.value? = some n) (hrest : Ends rest) :
    readUnsigned l.negative (t ++ rest) = .ok (.number n, rest) := by
  obtain ⟨fraction, exponent, hwhole, hfraction, hexponent, rfl⟩ := h
  have hpast := hexponent.pastFraction hrest
  unfold readUnsigned
  rw [List.append_assoc, List.append_assoc, readWhole_of_whole hwhole (hfraction.noDigit hpast)]
  change (readFraction (fraction ++ (exponent ++ rest)) >>= _) = _
  rw [readFraction_of_spells hfraction hpast]
  change (readExponent (exponent ++ rest) >>= _) = _
  rw [readExponent_of_spells hexponent hrest]
  dsimp only [bind, Except.bind]
  rw [hvalue]

/-! ## Integers -/

/-- The number that decimal digits stand for. -/
def ofDigits (ds : List Nat) : Nat := ds.foldl (fun a d => a * 10 + d) 0

theorem ofDigits_append (ds : List Nat) (d : Nat) :
    ofDigits (ds ++ [d]) = ofDigits ds * 10 + d := by
  unfold ofDigits
  rw [List.foldl_append]
  rfl

theorem gather_of_le {limit acc : Nat} {ds : List Nat}
    (h : ds.foldl (fun a d => a * 10 + d) acc ≤ limit) :
    Number.gather limit acc ds = (ds.foldl (fun a d => a * 10 + d) acc, []) := by
  have hgrows : ∀ (ds : List Nat) (acc : Nat), acc ≤ ds.foldl (fun a d => a * 10 + d) acc := by
    intro ds
    induction ds with
    | nil => exact fun acc => Nat.le_refl acc
    | cons d ds ih =>
      intro acc
      have htail := ih (acc * 10 + d)
      rw [List.foldl_cons]
      omega
  induction ds generalizing acc with
  | nil => rfl
  | cons d ds ih =>
    rw [List.foldl_cons] at h ⊢
    rw [Number.gather, if_pos (Nat.le_trans (hgrows ds _) h), ih h]

/-- The digits of a number, from the highest to the lowest. -/
def digitValues (n : Nat) : List Nat := (Number.digits n).map (·.toNat - 0x30)

theorem digitValue_digitChar {d : Nat} (h : d < 10) : (Nat.digitChar d).toNat - 0x30 = d := by
  have hall : ∀ d, d < 10 → (Nat.digitChar d).toNat - 0x30 = d := by decide
  exact hall d h

theorem digitValues_of_lt {n : Nat} (h : n < 10) : digitValues n = [n] := by
  unfold digitValues Number.digits
  rw [Nat.toDigits_of_lt_base h, List.map_singleton, digitValue_digitChar h]

theorem digitValues_of_le {n : Nat} (h : 10 ≤ n) :
    digitValues n = digitValues (n / 10) ++ [n % 10] := by
  unfold digitValues Number.digits
  rw [Nat.toDigits_of_base_le (by decide) h, List.map_append, List.map_singleton,
    digitValue_digitChar (Nat.mod_lt n (by decide))]

theorem ofDigits_digitValues (n : Nat) : ofDigits (digitValues n) = n := by
  by_cases hlt : n < 10
  · rw [digitValues_of_lt hlt]
    exact (Nat.zero_add n : 0 * 10 + n = n)
  · rw [digitValues_of_le (by omega), ofDigits_append, ofDigits_digitValues (n / 10)]
    omega
termination_by n

theorem whole_digitValues (n : Nat) : Whole (digitValues n) := by
  by_cases hlt : n < 10
  · rw [digitValues_of_lt hlt]
    refine ⟨⟨List.cons_ne_nil n [], List.forall_mem_singleton.mpr hlt⟩, fun hzero => ?_⟩
    rw [Option.some.inj hzero]
  · obtain ⟨⟨hne, hdigits⟩, hzero⟩ := whole_digitValues (n / 10)
    have hlast : n % 10 < 10 := Nat.mod_lt n (by decide)
    rw [digitValues_of_le (by omega)]
    refine ⟨⟨by simp, List.forall_mem_append.mpr
      ⟨hdigits, List.forall_mem_singleton.mpr hlast⟩⟩, fun hhead => ?_⟩
    have hfirst : (digitValues (n / 10)).head? = some 0 := by
      obtain ⟨c, cs, hcs⟩ := List.exists_cons_of_ne_nil hne
      rw [hcs] at hhead ⊢
      exact hhead
    -- The digits in front are not a zero alone, for the number is not below ten.
    have hfront := ofDigits_digitValues (n / 10)
    rw [hzero hfirst] at hfront
    have hpos : n / 10 = 0 := hfront.symm
    omega
termination_by n

/-- Digits without a zero in front are those of their number. -/
theorem digitValues_ofDigits {ds : List Nat} (h : Whole ds) : digitValues (ofDigits ds) = ds := by
  obtain ⟨⟨hne, hdigits⟩, hzero⟩ := h
  rcases List.eq_nil_or_concat ds with rfl | ⟨front, d, rfl⟩
  · exact absurd rfl hne
  rw [List.concat_eq_append] at *
  obtain ⟨hfront, hlast⟩ := List.forall_mem_append.mp hdigits
  have hd : d < 10 := hlast d List.mem_cons_self
  cases front with
  | nil =>
    have hvalue : ofDigits [d] = d := Nat.zero_add d
    rw [List.nil_append, hvalue, digitValues_of_lt hd]
  | cons c front =>
    have hc : c ≠ 0 := fun hc => by simpa using hzero (congrArg some hc)
    have hwhole : Whole (c :: front) :=
      ⟨⟨List.cons_ne_nil c front, hfront⟩, fun h => absurd (Option.some.inj h) hc⟩
    have hih := digitValues_ofDigits hwhole
    -- What stands in front is not zero, so the number is not below ten.
    have hpos : ofDigits (c :: front) ≠ 0 := by
      intro hzero
      rw [hzero, digitValues_of_lt (by decide)] at hih
      exact hc (List.cons.inj hih).1.symm
    rw [ofDigits_append, digitValues_of_le (by omega),
      show (ofDigits (c :: front) * 10 + d) / 10 = ofDigits (c :: front) by omega,
      show (ofDigits (c :: front) * 10 + d) % 10 = d by omega, hih]
termination_by ds.length

theorem isDigit_toNat {c : Char} (h : c.isDigit = true) : 0x30 ≤ c.toNat ∧ c.toNat ≤ 0x39 := by
  unfold Char.isDigit at h
  rw [Bool.and_eq_true, decide_eq_true_eq, decide_eq_true_eq] at h
  exact h

theorem isDigit_of_mem_digits {n : Nat} {c : Char} (h : c ∈ Number.digits n) : c.isDigit = true :=
  Nat.isDigit_of_mem_toDigits (by decide) (by decide) h

theorem digitBytes_digitValues (n : Nat) :
    digitBytes (digitValues n) = Utf8.encode (Number.digits n) := by
  have hrange : ∀ c ∈ Number.digits n, 0x30 ≤ c.toNat ∧ c.toNat ≤ 0x39 := fun c hc =>
    isDigit_toNat (isDigit_of_mem_digits hc)
  unfold digitBytes digitValues
  rw [Utf8.encode_of_ascii fun c hc => Nat.lt_of_le_of_lt (hrange c hc).2 (by decide),
    List.map_map]
  apply List.map_congr_left
  intro c hc
  have hc := hrange c hc
  change UInt8.ofNat (0x30 + (c.toNat - 0x30)) = UInt8.ofNat c.toNat
  rw [Nat.add_sub_cancel' hc.1]

section Values

variable {ds : List Nat}

theorem value?_of_ofDigits (h : ofDigits ds ≤ Number.maxWord) :
    Number.Literal.value? ⟨false, ds, none, none⟩ = some (.int (ofDigits ds)) := by
  unfold Number.Literal.value?
  dsimp only
  rw [gather_of_le h]
  rfl

theorem value?_negative_of_ofDigits (hpos : 0 < ofDigits ds)
    (h : ofDigits ds ≤ 0x8000000000000000) :
    Number.Literal.value? ⟨true, ds, none, none⟩ = some (.int (-ofDigits ds)) := by
  have hword : ofDigits ds ≤ Number.maxWord := Nat.le_trans h (by decide)
  unfold Number.Literal.value?
  dsimp only
  rw [gather_of_le hword]
  simp only [Bool.not_true, Bool.false_eq_true, if_false]
  exact if_pos ⟨hpos, h⟩

end Values

/-- The wire text of an integer is its one literal. -/
theorem spellsNumber_int {n : Int} (h : Fits n) :
    ∃ l : Number.Literal, SpellsNumber l (Utf8.encode (Number.intChars n)) ∧
      l.value? = some (.int n) := by
  unfold Fits at h
  cases n with
  | ofNat n =>
    have hword : ofDigits (digitValues n) ≤ Number.maxWord := by
      rw [ofDigits_digitValues]
      exact Int.ofNat_le.mp h.2
    refine ⟨⟨false, digitValues n, none, none⟩,
      ⟨_, ⟨[], [], whole_digitValues n, .none, .none, rfl⟩, ?_⟩, ?_⟩
    · change Utf8.encode (Number.digits n) = _
      simp [digitBytes_digitValues]
    · rw [value?_of_ofDigits hword, ofDigits_digitValues]
      rfl
  | negSucc n =>
    have hpos : 0 < ofDigits (digitValues (n + 1)) := by
      rw [ofDigits_digitValues]
      omega
    have hword : ofDigits (digitValues (n + 1)) ≤ 0x8000000000000000 := by
      rw [ofDigits_digitValues]
      omega
    refine ⟨⟨true, digitValues (n + 1), none, none⟩,
      ⟨_, ⟨[], [], whole_digitValues (n + 1), .none, .none, rfl⟩, ?_⟩, ?_⟩
    · change Utf8.encode ('-' :: Number.digits (n + 1)) = _
      rw [Utf8.encode_cons_of_lt (by decide)]
      simp [digitBytes_digitValues]
    · rw [value?_negative_of_ofDigits hpos hword, ofDigits_digitValues]
      rfl

/-- The integer that a literal without fraction and exponent stands for. -/
def integerOf (l : Number.Literal) : Int :=
  if l.negative then -ofDigits l.whole else ofDigits l.whole

/-- A literal without fraction and exponent is read as its integer, and it is the wire text of that
integer.  Minus zero is another matter, for it is no integer. -/
theorem integer_literal {l : Number.Literal} {t : Bytes} (h : SpellsNumber l t)
    (hfraction : l.fraction = none) (hexponent : l.exponent = none)
    (hzero : l.negative = true → l.whole ≠ [0]) (hfits : Fits (integerOf l)) :
    l.value? = some (.int (integerOf l)) ∧ t = Utf8.encode (Number.intChars (integerOf l)) := by
  obtain ⟨negative, whole, fraction, exponent⟩ := l
  obtain ⟨u, ⟨_, _, hwhole, hu, hu', rfl⟩, rfl⟩ := h
  dsimp only at hfraction hexponent hzero hwhole hu hu' ⊢
  subst hfraction hexponent
  cases hu
  cases hu'
  -- The digits are those of the number that they stand for.
  have hdigits : digitBytes whole = Utf8.encode (Number.digits (ofDigits whole)) := by
    rw [← digitBytes_digitValues, digitValues_ofDigits hwhole]
  unfold integerOf Fits at hfits
  unfold integerOf
  cases negative with
  | false =>
    simp only [Bool.false_eq_true, if_false] at hfits ⊢
    refine ⟨value?_of_ofDigits (Int.ofNat_le.mp hfits.2), ?_⟩
    rw [List.nil_append, List.append_nil, List.append_nil, hdigits]
    rfl
  | true =>
    simp only [if_true] at hfits ⊢
    have hpos : 0 < ofDigits whole := by
      refine Nat.pos_of_ne_zero fun heq => hzero rfl ?_
      rw [← digitValues_ofDigits hwhole, heq, digitValues_of_lt (by decide)]
    refine ⟨value?_negative_of_ofDigits hpos (by omega), ?_⟩
    rw [List.append_nil, List.append_nil, hdigits]
    obtain ⟨n, hn⟩ := Nat.exists_eq_succ_of_ne_zero (Nat.ne_of_gt hpos)
    rw [hn]
    exact (Utf8.encode_cons_of_lt (c := '-') (by decide) _).symm

/-- The first byte of a scalar, by which its kind is known. -/
structure Leads (b : UInt8) : Prop where
  notBlank : isBlankByte b = false
  notArray : glyph b ≠ '['
  notObject : glyph b ≠ '\x7b'
  notEnd : glyph b ≠ ']'

theorem leads_of_digit {b : UInt8} (h : isDigitByte b = true) : Leads b where
  notBlank := by
    rw [Bool.eq_false_iff]
    intro hblank
    have hends : Ends [b] := .inl hblank
    exact absurd (h.symm.trans hends.not_digit) (by decide)
  notArray := glyph_ne_of_digit h (by decide)
  notObject := glyph_ne_of_digit h (by decide)
  notEnd := glyph_ne_of_digit h (by decide)

theorem readScalar_digit {b : UInt8} (h : isDigitByte b = true) (r : Bytes) :
    readScalar b r = readUnsigned false (b :: r) := by
  unfold readScalar
  split
  next heq => exact absurd heq (glyph_ne_of_digit h (by decide))
  next heq => exact absurd heq (glyph_ne_of_digit h (by decide))
  next heq => exact absurd heq (glyph_ne_of_digit h (by decide))
  next heq => exact absurd heq (glyph_ne_of_digit h (by decide))
  next heq => exact absurd heq (glyph_ne_of_digit h (by decide))
  next => rw [if_pos h]

/-- A scalar is read by its first byte. -/
theorem readScalar_of_spells {v : Json} {t rest : Bytes} (h : SpellsScalar v t)
    (hrest : Ends rest) :
    ∃ b u, t = b :: u ∧ Leads b ∧ readScalar b (u ++ rest) = .ok (v, rest) := by
  cases h with
  | null => exact ⟨0x6E, [0x75, 0x6C, 0x6C], rfl, ⟨by decide, by decide, by decide, by decide⟩, rfl⟩
  | true => exact ⟨0x74, [0x72, 0x75, 0x65], rfl, ⟨by decide, by decide, by decide, by decide⟩, rfl⟩
  | false =>
    exact ⟨0x66, [0x61, 0x6C, 0x73, 0x65], rfl, ⟨by decide, by decide, by decide, by decide⟩, rfl⟩
  | string h =>
    obtain ⟨u, rfl, hread⟩ := readString_of_spells h rest
    refine ⟨0x22, u, rfl, ⟨by decide, by decide, by decide, by decide⟩, ?_⟩
    change (readString [] .plain (u ++ rest) >>= _) = _
    rw [hread]
    rfl
  | @number l n t h hvalue =>
    obtain ⟨u, hu, rfl⟩ := h
    have hread := readUnsigned_of_spells hu hvalue hrest
    cases hnegative : l.negative with
    | true =>
      rw [hnegative] at hread
      exact ⟨0x2D, u, rfl, ⟨by decide, by decide, by decide, by decide⟩, hread⟩
    | false =>
      rw [hnegative] at hread
      obtain ⟨fraction, exponent, ⟨⟨hne, hdigits⟩, -⟩, -, -, rfl⟩ := hu
      cases hds : l.whole with
      | nil => exact absurd hds hne
      | cons d ds =>
        rw [hds] at hdigits hread
        have hdigit := isDigitByte_digit (hdigits d List.mem_cons_self)
        refine ⟨UInt8.ofNat (0x30 + d), digitBytes ds ++ (fraction ++ exponent), rfl,
          leads_of_digit hdigit, ?_⟩
        rw [readScalar_digit hdigit]
        exact hread

end Reindex.Json
