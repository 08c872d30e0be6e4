import Reindex.Json.Reader

/-!
# Texts of JSON values

`Spells depth v t` says that the bytes `t` are a text of `v` with at most `depth` containers open at
once: blanks may stand between its parts, and a character of a string may be escaped in any way the
format has.  The members of an object stand in `v` as they do in the text, in any order and maybe
twice under one name; `normal v` is the value that is meant.

The relation is as the reader is: a recursion on the depth, and one list of elements or members for
any relation between an element and its text.
-/

namespace Reindex.Json

def Blank (t : Bytes) : Prop := ∀ b ∈ t, isBlankByte b = true

/-! ## Strings -/

/-- The bytes after the backslash of a short escape, and the characters that they stand for. -/
def shortEscapes : List (UInt8 × Char) :=
  [(0x22, '"'), (0x5C, '\\'), (0x2F, '/'), (0x62, '\x08'), (0x66, '\x0c'), (0x6E, '\n'),
    (0x72, '\r'), (0x74, '\t')]

/-- The 16-bit unit that four digits stand for. -/
def unit? (a b c d : UInt8) : Option Nat := do
  let a ← Text.hexValue? (glyph a)
  let b ← Text.hexValue? (glyph b)
  let c ← Text.hexValue? (glyph c)
  let d ← Text.hexValue? (glyph d)
  some (((a * 16 + b) * 16 + c) * 16 + d)

inductive SpellsChar : Char → Bytes → Prop where
  | itself {c : Char} (hcontrol : 0x20 ≤ c.toNat) (hquote : c ≠ '"') (hbackslash : c ≠ '\\') :
      SpellsChar c (Utf8.encodeChar c)
  | short {letter : UInt8} {c : Char} (h : (letter, c) ∈ shortEscapes) :
      SpellsChar c [0x5C, letter]
  | unit {a b c d : UInt8} {n : Nat} (h : unit? a b c d = some n)
      (hhigh : Text.isHighSurrogate n = false) (hlow : Text.isLowSurrogate n = false) :
      SpellsChar (Char.ofNat n) [0x5C, 0x75, a, b, c, d]
  | pair {a b c d a' b' c' d' : UInt8} {high low : Nat} (h : unit? a b c d = some high)
      (hhigh : Text.isHighSurrogate high = true) (h' : unit? a' b' c' d' = some low)
      (hlow : Text.isLowSurrogate low = true) :
      SpellsChar (Char.ofNat (Text.pairCode high low))
        [0x5C, 0x75, a, b, c, d, 0x5C, 0x75, a', b', c', d']

inductive SpellsChars : List Char → Bytes → Prop where
  | nil : SpellsChars [] []
  | cons {c : Char} {cs : List Char} {t u : Bytes} (hchar : SpellsChar c t)
      (hrest : SpellsChars cs u) : SpellsChars (c :: cs) (t ++ u)

/-- A string between its quotes. -/
def SpellsString (s : String) (t : Bytes) : Prop :=
  ∃ body, SpellsChars s.toList body ∧ t = 0x22 :: (body ++ [0x22])

/-! ## Numbers -/

/-- The bytes of decimal digits. -/
def digitBytes (ds : List Nat) : Bytes := ds.map fun d => UInt8.ofNat (0x30 + d)

/-- At least one decimal digit. -/
def Digits (ds : List Nat) : Prop := ds ≠ [] ∧ ∀ d ∈ ds, d < 10

/-- Decimal digits without a zero in front of others. -/
def Whole (ds : List Nat) : Prop := Digits ds ∧ (ds.head? = some 0 → ds = [0])

inductive SpellsFraction : Option (List Nat) → Bytes → Prop where
  | none : SpellsFraction none []
  | some {ds : List Nat} (h : Digits ds) : SpellsFraction (some ds) (0x2E :: digitBytes ds)

/-- The sign of an exponent; an upward one may be left out. -/
inductive SpellsSign : Bool → Bytes → Prop where
  | bare : SpellsSign true []
  | up : SpellsSign true [0x2B]
  | down : SpellsSign false [0x2D]

inductive SpellsExponent : Option (Bool × List Nat) → Bytes → Prop where
  | none : SpellsExponent none []
  | some {letter : UInt8} (hletter : letter = 0x65 ∨ letter = 0x45) {up : Bool} {sign : Bytes}
      (hsign : SpellsSign up sign) {ds : List Nat} (h : Digits ds) :
      SpellsExponent (some (up, ds)) (letter :: (sign ++ digitBytes ds))

/-- A number after its sign. -/
def SpellsUnsigned (l : Number.Literal) (t : Bytes) : Prop :=
  ∃ fraction exponent, Whole l.whole ∧ SpellsFraction l.fraction fraction ∧
    SpellsExponent l.exponent exponent ∧ t = digitBytes l.whole ++ (fraction ++ exponent)

def SpellsNumber (l : Number.Literal) (t : Bytes) : Prop :=
  ∃ u, SpellsUnsigned l u ∧ t = (if l.negative then [0x2D] else []) ++ u

/-! ## Values -/

/-- The integers that a text carries exactly. -/
def Fits (n : Int) : Prop := -0x8000000000000000 ≤ n ∧ n ≤ 0xFFFFFFFFFFFFFFFF

/-- A number has a text only if the number that is meant is in range. -/
inductive SpellsScalar : Json → Bytes → Prop where
  | null : SpellsScalar .null (utf8 "null")
  | true : SpellsScalar (.bool true) (utf8 "true")
  | false : SpellsScalar (.bool false) (utf8 "false")
  | number {l : Number.Literal} {n : Number} {t : Bytes} (h : SpellsNumber l t)
      (hvalue : l.value? = some n) : SpellsScalar (.number n) t
  | string {s : String} {t : Bytes} (h : SpellsString s t) : SpellsScalar (.string s) t

section Lists

variable {α : Type}

/-- One or more elements with commas between them.  Blanks may follow each element and each
comma. -/
inductive SpellsItems (item : α → Bytes → Prop) : List α → Bytes → Prop where
  | last {x : α} {t blank : Bytes} (h : item x t) (hblank : Blank blank) :
      SpellsItems item [x] (t ++ blank)
  | more {x : α} {xs : List α} {t blank blank' u : Bytes} (h : item x t) (hblank : Blank blank)
      (hblank' : Blank blank') (hrest : SpellsItems item xs u) :
      SpellsItems item (x :: xs) (t ++ (blank ++ 0x2C :: (blank' ++ u)))

/-- Elements between an opening and a closing byte. -/
inductive SpellsList (item : α → Bytes → Prop) («open» close : UInt8) : List α → Bytes → Prop where
  | empty {blank : Bytes} (hblank : Blank blank) :
      SpellsList item «open» close [] («open» :: (blank ++ [close]))
  | items {xs : List α} {blank u : Bytes} (hblank : Blank blank) (h : SpellsItems item xs u) :
      SpellsList item «open» close xs («open» :: (blank ++ (u ++ [close])))

/-- A name and a value with a colon between them. -/
inductive SpellsMember (value : α → Bytes → Prop) : String × α → Bytes → Prop where
  | mk {name : String} {v : α} {t blank blank' u : Bytes} (hname : SpellsString name t)
      (hblank : Blank blank) (hblank' : Blank blank') (hvalue : value v u) :
      SpellsMember value (name, v) (t ++ (blank ++ 0x3A :: (blank' ++ u)))

end Lists

def Spells : (depth : Nat) → Json → Bytes → Prop
  | 0, v, t => SpellsScalar v t
  | depth + 1, v, t =>
    SpellsScalar v t ∨
      (∃ xs, v = .array xs ∧ SpellsList (Spells depth) 0x5B 0x5D xs t) ∨
      ∃ pairs, v = .object pairs ∧ SpellsList (SpellsMember (Spells depth)) 0x7B 0x7D pairs t

mutual

/-- The value that is meant by what is written: members come in the order of their names, and of
those with one name the last one counts. -/
def normal : Json → Json
  | .array xs => .array (normalItems xs)
  | .object pairs => ofPairs (normalMembers pairs)
  | v => v

def normalItems : List Json → List Json
  | [] => []
  | x :: rest => x.normal :: normalItems rest

def normalMembers : List (String × Json) → List (String × Json)
  | [] => []
  | (name, v) :: rest => (name, v.normal) :: normalMembers rest

end

theorem normalItems_eq (xs : List Json) : normalItems xs = xs.map normal := by
  induction xs with
  | nil => rw [normalItems, List.map_nil]
  | cons x rest ih => rw [normalItems, ih, List.map_cons]

theorem normalMembers_eq (pairs : List (String × Json)) :
    normalMembers pairs = pairs.map fun m => (m.1, m.2.normal) := by
  induction pairs with
  | nil => rw [normalMembers, List.map_nil]
  | cons m rest ih => rw [normalMembers, ih, List.map_cons]

theorem normal_array (xs : List Json) : (array xs).normal = .array (xs.map normal) := by
  rw [normal, normalItems_eq]

theorem normal_object (pairs : List (String × Json)) :
    (object pairs).normal = ofPairs (pairs.map fun m => (m.1, m.2.normal)) := by
  rw [normal, normalMembers_eq]

/-! ## Lists of other things -/

section Maps

variable {α β γ : Type} {item : β → Bytes → Prop} {item' : γ → Bytes → Prop} {f : α → β}
  {g : α → γ}

theorem SpellsItems.map (hitem : ∀ x t, item (f x) t → item' (g x) t) {xs : List α} {u : Bytes}
    (h : SpellsItems item (xs.map f) u) : SpellsItems item' (xs.map g) u := by
  generalize hys : xs.map f = ys at h
  induction h generalizing xs with
  | last hx hblank =>
    obtain ⟨x, rfl, rfl⟩ := List.map_eq_singleton_iff.mp hys
    exact .last (hitem _ _ hx) hblank
  | more hx hblank hblank' _ ih =>
    obtain ⟨x, rest, rfl, rfl, rfl⟩ := List.map_eq_cons_iff.mp hys
    exact .more (hitem _ _ hx) hblank hblank' (ih rfl)

/-- What is spelled as one thing is spelled as another, if each element is. -/
theorem SpellsList.map (hitem : ∀ x t, item (f x) t → item' (g x) t) {«open» close : UInt8}
    {xs : List α} {t : Bytes} (h : SpellsList item «open» close (xs.map f) t) :
    SpellsList item' «open» close (xs.map g) t := by
  generalize hys : xs.map f = ys at h
  cases h with
  | empty hblank =>
    obtain rfl := List.map_eq_nil_iff.mp hys
    exact .empty hblank
  | items hblank h =>
    subst hys
    exact .items hblank (h.map hitem)

theorem SpellsMember.map {value : β → Bytes → Prop} {value' : γ → Bytes → Prop} {f : β → γ}
    (hvalue : ∀ v t, value v t → value' (f v) t) {m : String × β} {t : Bytes}
    (h : SpellsMember value m t) : SpellsMember value' (m.1, f m.2) t := by
  obtain ⟨hname, hblank, hblank', hv⟩ := h
  exact .mk hname hblank hblank' (hvalue _ _ hv)

end Maps

end Reindex.Json
