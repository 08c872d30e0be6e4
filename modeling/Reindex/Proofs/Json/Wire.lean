import Reindex.Json.Printer
import Reindex.Proofs.Json.Values
import Reindex.Proofs.Keyed

/-!
# The wire form as a text

No wire text holds a control character, so it fits on one line, whatever the value is.  The wire
text of a portable value is one of its texts, and is therefore read back as that value.
-/

namespace Reindex.Json

/-! ## Lists between commas -/

/-- The characters of elements, with commas between them. -/
def separated {α : Type} (f : α → List Char) : List α → List Char
  | [] => []
  | x :: rest => f x ++ rest.flatMap fun y => ',' :: f y

def memberChars (m : String × Json) : List Char := stringChars m.1 ++ ':' :: m.2.chars

theorem itemsChars_eq (xs : List Json) : itemsChars xs = separated chars xs := by
  have hmore : ∀ rest, moreItemsChars rest = rest.flatMap fun y : Json => ',' :: y.chars := by
    intro rest
    induction rest with
    | nil => rw [moreItemsChars, List.flatMap_nil]
    | cons y rest ih => rw [moreItemsChars, ih, List.flatMap_cons]
  cases xs with
  | nil => rw [itemsChars, separated]
  | cons x rest => rw [itemsChars, hmore, separated]

theorem membersChars_eq (ms : List (String × Json)) :
    membersChars ms = separated memberChars ms := by
  have hmore : ∀ rest, moreMembersChars rest = rest.flatMap fun m => ',' :: memberChars m := by
    intro rest
    induction rest with
    | nil => rw [moreMembersChars, List.flatMap_nil]
    | cons m rest ih =>
      rw [moreMembersChars, ih, List.flatMap_cons]
      rfl
  cases ms with
  | nil => rw [membersChars, separated]
  | cons m rest =>
    rw [membersChars, hmore, separated]
    rfl

theorem chars_array (xs : List Json) : (array xs).chars = '[' :: (separated chars xs ++ [']']) := by
  rw [chars, itemsChars_eq, List.cons_append]

theorem chars_object (ms : List (String × Json)) :
    (object ms).chars = '\x7b' :: (separated memberChars ms ++ ['\x7d']) := by
  rw [chars, membersChars_eq, List.cons_append]

/-! ## No control characters -/

/-- No character is a control character of ASCII. -/
def Printable (cs : List Char) : Prop := ∀ c ∈ cs, 0x20 ≤ c.toNat

theorem printable_nil : Printable [] := fun _ h => absurd h List.not_mem_nil

@[simp] theorem printable_append {cs ds : List Char} :
    Printable (cs ++ ds) ↔ Printable cs ∧ Printable ds :=
  List.forall_mem_append

@[simp] theorem printable_cons {c : Char} {cs : List Char} :
    Printable (c :: cs) ↔ 0x20 ≤ c.toNat ∧ Printable cs :=
  List.forall_mem_cons

theorem printable_flatMap {α : Type} {f : α → List Char} {xs : List α}
    (h : ∀ x ∈ xs, Printable (f x)) : Printable (xs.flatMap f) := by
  intro c hc
  obtain ⟨x, hx, hc⟩ := List.mem_flatMap.mp hc
  exact h x hx c hc

theorem printable_separated {α : Type} {f : α → List Char} {xs : List α}
    (h : ∀ x ∈ xs, Printable (f x)) : Printable (separated f xs) := by
  cases xs with
  | nil => exact printable_nil
  | cons x rest =>
    obtain ⟨hx, hrest⟩ := List.forall_mem_cons.mp h
    have hmore : Printable (rest.flatMap fun y => ',' :: f y) :=
      printable_flatMap fun y hy => printable_cons.mpr ⟨by decide, hrest y hy⟩
    exact printable_append.mpr ⟨hx, hmore⟩

theorem printable_digits (n : Nat) : Printable (Number.digits n) := by
  intro c hc
  have hrange := isDigit_toNat (isDigit_of_mem_digits hc)
  omega

theorem printable_intChars (n : Int) : Printable (Number.intChars n) := by
  cases n with
  | ofNat n => exact printable_digits n
  | negSucc n => exact printable_cons.mpr ⟨by decide, printable_digits (n + 1)⟩

theorem printable_replicate (n : Nat) : Printable (List.replicate n '0') := by
  intro c hc
  rw [List.eq_of_mem_replicate hc]
  decide

theorem printable_scaledChars (layout : Number.Layout) (s : Decimal.Scaled) :
    Printable (Number.scaledChars layout s) := by
  have hdigits := printable_digits s.digits
  have htake : ∀ n, Printable ((Number.digits s.digits).take n) := fun n c hc =>
    hdigits c (List.mem_of_mem_take hc)
  have hdrop : ∀ n, Printable ((Number.digits s.digits).drop n) := fun n c hc =>
    hdigits c (List.mem_of_mem_drop hc)
  have hpoint : 0x20 ≤ '.'.toNat := by decide
  have hzero : 0x20 ≤ '0'.toNat := by decide
  have hletter : 0x20 ≤ 'e'.toNat := by decide
  have hsign : ∀ top : Int, 0x20 ≤ (if top < 0 then '-' else '+').toNat := by
    intro top
    split <;> decide
  unfold Number.scaledChars
  dsimp only
  split
  · split
    · simp only [printable_append, printable_cons]
      exact ⟨⟨hdigits, printable_replicate _⟩, hpoint, hzero, printable_nil⟩
    split
    · simp only [printable_append, printable_cons]
      exact ⟨htake _, hpoint, hdrop _⟩
    · simp only [printable_append, printable_cons]
      exact ⟨⟨hzero, hpoint, printable_replicate _⟩, hdigits⟩
  · simp only [printable_append, printable_cons]
    refine ⟨?_, hletter, hsign _, printable_digits _⟩
    -- The point goes after the first digit, if there is another.
    split
    next d e rest heq =>
      rw [heq] at hdigits
      simp only [printable_cons] at hdigits ⊢
      exact ⟨hdigits.1, hpoint, hdigits.2⟩
    next => exact hdigits

theorem printable_number (n : Number) : Printable n.chars := by
  cases n with
  | int n => exact printable_intChars n
  | float f =>
    change Printable (Number.floatChars f)
    unfold Number.floatChars
    dsimp only
    rw [printable_append]
    constructor
    · split
      · exact printable_cons.mpr ⟨by decide, printable_nil⟩
      · exact printable_nil
    split
    · split
      · simp only [printable_cons]
        exact ⟨by decide, by decide, by decide, printable_nil⟩
      · exact printable_scaledChars _ _
    · exact printable_scaledChars _ _

theorem toNat_hexDigit (n : Nat) : 0x20 ≤ (Text.hexDigit n).toNat := by
  have hdigit : ∀ d, d < 16 → 0x20 ≤ (Nat.digitChar d).toNat := by decide
  exact hdigit (n % 16) (Nat.mod_lt n (by decide))

theorem printable_escapeChar (c : Char) : Printable (escapeChar c) := by
  have hpair : ∀ letter : Char, 0x20 ≤ letter.toNat → Printable ['\\', letter] := by
    intro letter hletter
    simp only [printable_cons]
    exact ⟨by decide, hletter, printable_nil⟩
  unfold escapeChar
  split
  · exact hpair '"' (by decide)
  split
  · exact hpair '\\' (by decide)
  split
  next hplain => exact printable_cons.mpr ⟨hplain, printable_nil⟩
  split
  · exact hpair 'b' (by decide)
  split
  · exact hpair 'f' (by decide)
  split
  · exact hpair 'n' (by decide)
  split
  · exact hpair 'r' (by decide)
  split
  · exact hpair 't' (by decide)
  · simp only [printable_cons]
    exact ⟨by decide, by decide, by decide, by decide, toNat_hexDigit _, toNat_hexDigit _,
      printable_nil⟩

theorem printable_stringChars (s : String) : Printable (stringChars s) := by
  have hbody : Printable (s.toList.flatMap escapeChar) :=
    printable_flatMap fun c _ => printable_escapeChar c
  unfold stringChars
  simp only [printable_append, printable_cons]
  exact ⟨⟨by decide, hbody⟩, by decide, printable_nil⟩

theorem printable_memberChars {m : String × Json} (h : Printable m.2.chars) :
    Printable (memberChars m) :=
  printable_append.mpr ⟨printable_stringChars m.1, printable_cons.mpr ⟨by decide, h⟩⟩

theorem sizeOf_lt_of_mem_members {m : String × Json} {ms : List (String × Json)} (h : m ∈ ms) :
    sizeOf m.2 < sizeOf ms := by
  have hlt := List.sizeOf_lt_of_mem h
  have hvalue : sizeOf m = 1 + sizeOf m.1 + sizeOf m.2 := rfl
  omega

/-- By induction on the value: strings escape what they must, and all else is made of visible
characters. -/
theorem printable_chars : ∀ v : Json, Printable v.chars
  | .null | .bool true | .bool false => by
    simp only [chars, printable_cons]
    exact ⟨by decide, by decide, by decide, by decide, by simp [printable_nil]⟩
  | .number n => by
    rw [chars]
    exact printable_number n
  | .string s => by
    rw [chars]
    exact printable_stringChars s
  | .array xs => by
    have hitems : Printable (separated chars xs) :=
      printable_separated fun x _ => printable_chars x
    rw [chars_array]
    simp only [printable_append, printable_cons]
    exact ⟨by decide, hitems, by decide, printable_nil⟩
  | .object ms => by
    have hmembers : Printable (separated memberChars ms) :=
      printable_separated fun m hm =>
        have := sizeOf_lt_of_mem_members hm
        printable_memberChars (printable_chars m.2)
    rw [chars_object]
    simp only [printable_append, printable_cons]
    exact ⟨by decide, hmembers, by decide, printable_nil⟩

/-- No byte of a wire text is a control character: there is no line break in it. -/
theorem control_free_wireBytes (v : Json) : ∀ b ∈ v.wireBytes, 0x20 ≤ b.toNat := by
  intro b hb
  obtain ⟨c, hc, hb⟩ := List.mem_flatMap.mp hb
  have hchar := printable_chars v c hc
  have hbyte := Utf8.toNat_of_mem_encodeChar hb
  omega

/-! ## Wire texts are texts -/

/-- The byte of a hexadecimal digit. -/
theorem exists_hexByte {d : Nat} (h : d < 16) :
    ∃ b, Utf8.encodeChar (Nat.digitChar d) = [b] ∧ Text.hexValue? (glyph b) = some d := by
  have hlow : ∀ d, d < 16 → (Nat.digitChar d).toNat < 0x80 := by decide
  have hvalue : ∀ d, d < 16 → Text.hexValue? (Nat.digitChar d) = some d := by decide
  refine ⟨_, Utf8.encodeChar_of_lt (hlow d h), ?_⟩
  rw [glyph_ofNat_toNat (Nat.lt_of_lt_of_le (hlow d h) (by decide)), hvalue d h]

/-- A control character by the digits of its code point. -/
theorem spellsChar_control {c : Char} (h : c.toNat < 0x20) :
    SpellsChar c (Utf8.encode
      ['\\', 'u', '0', '0', Text.hexDigit (c.toNat / 16), Text.hexDigit c.toNat]) := by
  obtain ⟨high, hhigh, hhighValue⟩ := exists_hexByte (show c.toNat / 16 % 16 < 16 by omega)
  obtain ⟨low, hlow, hlowValue⟩ := exists_hexByte (show c.toNat % 16 < 16 by omega)
  have hunit : unit? 0x30 0x30 high low = some c.toNat := by
    unfold unit?
    rw [hhighValue, hlowValue]
    change some (((0 * 16 + 0) * 16 + c.toNat / 16 % 16) * 16 + c.toNat % 16) = some c.toNat
    congr 1
    omega
  have hbytes : Utf8.encode
      ['\\', 'u', '0', '0', Text.hexDigit (c.toNat / 16), Text.hexDigit c.toNat] =
      [0x5C, 0x75, 0x30, 0x30, high, low] := by
    change [0x5C] ++ ([0x75] ++ ([0x30] ++ ([0x30] ++
      (Utf8.encodeChar (Nat.digitChar (c.toNat / 16 % 16)) ++
        (Utf8.encodeChar (Nat.digitChar (c.toNat % 16)) ++ []))))) = _
    rw [hhigh, hlow]
    rfl
  have hnone : Text.isHighSurrogate c.toNat = false ∧ Text.isLowSurrogate c.toNat = false := by
    unfold Text.isHighSurrogate Text.isLowSurrogate
    simp only [Bool.and_eq_false_iff, decide_eq_false_iff_not]
    omega
  have hspells : SpellsChar (Char.ofNat c.toNat) [0x5C, 0x75, 0x30, 0x30, high, low] :=
    .unit hunit hnone.1 hnone.2
  rw [Char.ofNat_toNat] at hspells
  rw [hbytes]
  exact hspells

theorem spellsChar_escapeChar (c : Char) : SpellsChar c (Utf8.encode (escapeChar c)) := by
  have hshort : ∀ (letter : UInt8) (x : Char), (letter, x) ∈ shortEscapes → c = x →
      SpellsChar c [0x5C, letter] := fun letter x h heq => heq ▸ .short h
  unfold escapeChar
  split
  next h => exact hshort 0x22 '"' (by decide) h
  next hquote =>
  split
  next h => exact hshort 0x5C '\\' (by decide) h
  next hbackslash =>
  split
  next hplain =>
    have hself : Utf8.encode [c] = Utf8.encodeChar c := List.append_nil _
    rw [hself]
    exact .itself hplain hquote hbackslash
  next hcontrol =>
  split
  next h => exact hshort 0x62 '\x08' (by decide) (Char.toNat_inj.mp h)
  split
  next h => exact hshort 0x66 '\x0c' (by decide) (Char.toNat_inj.mp h)
  split
  next h => exact hshort 0x6E '\n' (by decide) h
  split
  next h => exact hshort 0x72 '\r' (by decide) h
  split
  next h => exact hshort 0x74 '\t' (by decide) h
  next =>
    exact spellsChar_control (Nat.not_le.mp hcontrol)

theorem spellsString_stringChars (s : String) :
    SpellsString s (Utf8.encode (stringChars s)) := by
  have hbody : ∀ cs : List Char, SpellsChars cs (Utf8.encode (cs.flatMap escapeChar)) := by
    intro cs
    induction cs with
    | nil => exact .nil
    | cons c rest ih =>
      rw [List.flatMap_cons, Utf8.encode_append]
      exact .cons (spellsChar_escapeChar c) ih
  refine ⟨_, hbody s.toList, ?_⟩
  unfold stringChars
  rw [List.cons_append, Utf8.encode_cons_of_lt (by decide), Utf8.encode_append]
  rfl

/-- The elements, without any blanks. -/
theorem spellsList_separated {α : Type} {item : α → Bytes → Prop} {f : α → List Char} {xs : List α}
    {«open» close : UInt8} (h : ∀ x ∈ xs, item x (Utf8.encode (f x))) :
    SpellsList item «open» close xs («open» :: (Utf8.encode (separated f xs) ++ [close])) := by
  cases xs with
  | nil => exact .empty blank_nil
  | cons x rest =>
    have hitems : SpellsItems item (x :: rest) (Utf8.encode (separated f (x :: rest))) := by
      induction rest generalizing x with
      | nil =>
        have hx := h x List.mem_cons_self
        have hlast := SpellsItems.last hx blank_nil
        rw [separated, List.flatMap_nil, List.append_nil]
        rw [List.append_nil] at hlast
        exact hlast
      | cons y rest ih =>
        obtain ⟨hx, hrest⟩ := List.forall_mem_cons.mp h
        have hmore := SpellsItems.more hx blank_nil blank_nil (ih y hrest)
        have hcomma : Utf8.encode (separated f (x :: y :: rest)) =
            Utf8.encode (f x) ++ 0x2C :: Utf8.encode (separated f (y :: rest)) := by
          rw [separated, List.flatMap_cons, List.cons_append, Utf8.encode_append,
            Utf8.encode_cons_of_lt (by decide)]
          rfl
        rw [hcomma]
        exact hmore
    exact .items blank_nil hitems

/-- The values that are read back from their wire text: with no floats, with integers of 64 bits
only, and with at most `depth` containers around each other, whose members are in order. -/
def Portable : (depth : Nat) → Json → Prop
  | _, .null | _, .bool _ | _, .string _ => True
  | _, .number (.int n) => Fits n
  | _, .number (.float _) => False
  | 0, .array _ | 0, .object _ => False
  | depth + 1, .array xs => ∀ x ∈ xs, Portable depth x
  | depth + 1, .object ms => Keyed.Sorted ms ∧ ∀ m ∈ ms, Portable depth m.2

theorem portable_ofPairs {depth : Nat} {pairs : List (String × Json)}
    (h : ∀ p ∈ pairs, Portable depth p.2) : Portable (depth + 1) (ofPairs pairs) :=
  ⟨Keyed.sorted_ofPairs pairs, fun m hm => h m (Keyed.mem_of_mem_ofPairs hm)⟩

theorem spellsMember_memberChars {value : Json → Bytes → Prop} {m : String × Json}
    (h : value m.2 m.2.wireBytes) : SpellsMember value m (Utf8.encode (memberChars m)) := by
  have hmember := SpellsMember.mk (spellsString_stringChars m.1) blank_nil blank_nil h
  unfold memberChars
  rw [Utf8.encode_append, Utf8.encode_cons_of_lt (by decide)]
  exact hmember

theorem spellsScalar_wireBytes {v : Json} (h : Portable 0 v) : SpellsScalar v v.wireBytes := by
  unfold wireBytes
  cases v with
  | null => exact .null
  | bool b =>
    cases b with
    | false => exact .false
    | true => exact .true
  | number n =>
    cases n with
    | int n =>
      obtain ⟨l, hspells, hvalue⟩ := spellsNumber_int h
      rw [chars]
      exact .number hspells hvalue
    | float f => exact absurd h id
  | string s =>
    rw [chars]
    exact .string (spellsString_stringChars s)
  | array xs => exact absurd h id
  | object ms => exact absurd h id

theorem spells_wireBytes {depth : Nat} {v : Json} (h : Portable depth v) :
    Spells depth v v.wireBytes := by
  induction depth generalizing v with
  | zero => exact spellsScalar_wireBytes h
  | succ depth ih =>
    have hbracket : ∀ (first last : Char) (cs : List Char), first.toNat < 0x80 →
        last.toNat < 0x80 → Utf8.encode (first :: (cs ++ [last])) =
          UInt8.ofNat first.toNat :: (Utf8.encode cs ++ [UInt8.ofNat last.toNat]) := by
      intro first last cs hfirst hlast
      rw [Utf8.encode_cons_of_lt hfirst, Utf8.encode_append, Utf8.encode_cons_of_lt hlast]
      rfl
    cases v with
    | null | bool | string => exact .inl (spellsScalar_wireBytes trivial)
    | number n =>
      cases n with
      | int n => exact .inl (spellsScalar_wireBytes h)
      | float f => exact absurd h id
    | array xs =>
      have hitems : ∀ x ∈ xs, Spells depth x (Utf8.encode x.chars) := fun x hx => ih (h x hx)
      unfold wireBytes
      rw [chars_array, hbracket _ _ _ (by decide) (by decide)]
      exact .inr (.inl ⟨xs, rfl, spellsList_separated hitems⟩)
    | object ms =>
      have hmembers : ∀ m ∈ ms, SpellsMember (Spells depth) m (Utf8.encode (memberChars m)) :=
        fun m hm => spellsMember_memberChars (ih (h.2 m hm))
      unfold wireBytes
      rw [chars_object, hbracket _ _ _ (by decide) (by decide)]
      exact .inr (.inr ⟨ms, rfl, spellsList_separated hmembers⟩)

/-- The members of a portable value are in order already. -/
theorem normal_of_portable {depth : Nat} {v : Json} (h : Portable depth v) : v.normal = v := by
  induction depth generalizing v with
  | zero => exact normal_of_scalar (spellsScalar_wireBytes h)
  | succ depth ih =>
    cases v with
    | null | bool | number | string => rfl
    | array xs =>
      rw [normal_array, List.map_congr_left fun x hx => ih (h x hx), List.map_id']
    | object ms =>
      obtain ⟨hsorted, hvalues⟩ := h
      have hmembers : ms.map (fun m => (m.1, m.2.normal)) = ms := by
        rw [List.map_congr_left fun m hm => congrArg (m.1, ·) (ih (hvalues m hm)), List.map_id']
      rw [normal_object, hmembers, ofPairs, Keyed.ofPairs_of_sorted hsorted]

/-- A portable value is read back from its wire text. -/
theorem parse_wireBytes {v : Json} (h : Portable maxDepth v) : parse v.wireBytes = .ok v := by
  have hparse := parse_of_spells (spells_wireBytes h) blank_nil blank_nil
  rw [List.nil_append, List.append_nil, normal_of_portable h] at hparse
  exact hparse

end Reindex.Json
