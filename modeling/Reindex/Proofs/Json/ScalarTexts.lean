import Reindex.Proofs.Json.Scalars
import Reindex.Proofs.Results
import Reindex.Proofs.Text.Decoding

/-!
# What is read as a scalar

Strings, numbers and names are read off their texts and off nothing else: what a reader takes from
the bytes ahead is a text of what it gives.

The reader of strings checks UTF-8 only at the closing quote.  Until then its content is a sequence
of pieces, each a byte that stands for itself or all the bytes of an escaped character, so the
characters of the content are made of whole pieces.
-/

namespace Reindex.Json

/-! ## Bytes -/

theorem eq_ofNat_of_glyph {b : UInt8} {c : Char} (h : glyph b = c) : b = UInt8.ofNat c.toNat := by
  rw [← h, toNat_glyph, UInt8.ofNat_toNat]

theorem exists_blank (s : Bytes) : ∃ blank, Blank blank ∧ s = blank ++ skipBlank s :=
  ⟨s.takeWhile isBlankByte, List.all_eq_true.mp List.all_takeWhile,
    List.takeWhile_append_dropWhile.symm⟩

/-! ## Strings -/

/-- The number that hexadecimal digits stand for. -/
def hexCode? (digits : Bytes) : Option Nat :=
  digits.foldl (fun code b => code.bind fun n => (Text.hexValue? (glyph b)).map (n * 16 + ·))
    (some 0)

theorem hexCode?_snoc (digits : Bytes) (b : UInt8) :
    hexCode? (digits ++ [b]) =
      (hexCode? digits).bind fun n => (Text.hexValue? (glyph b)).map (n * 16 + ·) :=
  List.foldl_append

theorem hexCode?_eq_unit? (a b c d : UInt8) : hexCode? [a, b, c, d] = unit? a b c d := by
  unfold hexCode? unit?
  simp only [List.foldl_cons, List.foldl_nil, Option.bind_some]
  generalize Text.hexValue? (glyph a) = a
  generalize Text.hexValue? (glyph b) = b
  generalize Text.hexValue? (glyph c) = c
  generalize Text.hexValue? (glyph d) = d
  -- The first of the four that is no digit decides.
  cases a with
  | none => rfl
  | some a =>
    cases b with
    | none => rfl
    | some b =>
      cases c with
      | none => rfl
      | some c => cases d <;> simp

/-- The bytes of an escape that is begun, in each mode of the reader. -/
inductive Begun : StringMode → Bytes → Prop where
  | plain : Begun .plain []
  | escape : Begun .escape [0x5C]
  | unit {digits : Bytes} (hlength : digits.length ≤ 3) :
      Begun (.hex none digits.length (hexCode? digits)) (0x5C :: 0x75 :: digits)
  | backslash {a b c d : UInt8} {high : Nat} (h : unit? a b c d = some high)
      (hhigh : Text.isHighSurrogate high = true) :
      Begun (.backslash high) [0x5C, 0x75, a, b, c, d]
  | letter {a b c d : UInt8} {high : Nat} (h : unit? a b c d = some high)
      (hhigh : Text.isHighSurrogate high = true) :
      Begun (.letter high) [0x5C, 0x75, a, b, c, d, 0x5C]
  | pair {a b c d : UInt8} {high : Nat} (h : unit? a b c d = some high)
      (hhigh : Text.isHighSurrogate high = true) {digits : Bytes} (hlength : digits.length ≤ 3) :
      Begun (.hex (some high) digits.length (hexCode? digits))
        (0x5C :: 0x75 :: a :: b :: c :: d :: 0x5C :: 0x75 :: digits)

/-- A piece of a string's content, and how it is written. -/
inductive SpellsPiece : Bytes → Bytes → Prop where
  | byte {b : UInt8} (h : Ordinary b) : SpellsPiece [b] [b]
  | char {c : Char} {t : Bytes} (h : SpellsChar c t) : SpellsPiece (Utf8.encodeChar c) t

inductive SpellsContent : Bytes → Bytes → Prop where
  | nil : SpellsContent [] []
  | cons {piece t content u : Bytes} (hpiece : SpellsPiece piece t)
      (hrest : SpellsContent content u) : SpellsContent (piece ++ content) (t ++ u)

/-- The four digits of a unit are complete: the unit is a character, or half of one. -/
theorem finishHex_unit {content : Bytes} {a b c d : UInt8} {mode : StringMode} {content' : Bytes}
    (h : finishHex content none (unit? a b c d) = .ok (.more mode content')) :
    (Begun mode [0x5C, 0x75, a, b, c, d] ∧ content' = content) ∨
      ∃ piece, mode = .plain ∧ content' = piece.reverse ++ content ∧
        SpellsPiece piece [0x5C, 0x75, a, b, c, d] := by
  cases hunit : unit? a b c d with
  | none =>
    rw [hunit] at h
    cases h
  | some n =>
    rw [hunit] at h
    unfold finishHex at h
    dsimp only at h
    split at h
    · cases h
    next hlow =>
      split at h
      next hhigh =>
        cases h
        exact .inl ⟨.backslash hunit hhigh, rfl⟩
      next hhigh =>
        cases h
        exact .inr ⟨_, rfl, rfl, .char (.unit hunit (Bool.eq_false_iff.mpr hhigh)
          (Bool.eq_false_iff.mpr hlow))⟩

/-- The four digits of the second unit of a pair are complete. -/
theorem finishHex_pair {content : Bytes} {a b c d a' b' c' d' : UInt8} {high : Nat}
    {mode : StringMode} {content' : Bytes} (hhigh : unit? a b c d = some high)
    (hsurrogate : Text.isHighSurrogate high = true)
    (h : finishHex content (some high) (unit? a' b' c' d') = .ok (.more mode content')) :
    ∃ piece, mode = .plain ∧ content' = piece.reverse ++ content ∧
      SpellsPiece piece [0x5C, 0x75, a, b, c, d, 0x5C, 0x75, a', b', c', d'] := by
  cases hunit : unit? a' b' c' d' with
  | none =>
    rw [hunit] at h
    cases h
  | some n =>
    rw [hunit] at h
    unfold finishHex at h
    dsimp only at h
    split at h
    next hlow =>
      cases h
      exact ⟨_, rfl, rfl, .char (.pair hhigh hsurrogate hunit hlow)⟩
    · cases h

theorem exists_three_of_length {digits : Bytes} (hle : digits.length ≤ 3)
    (hge : ¬digits.length < 3) : ∃ a b c, digits = [a, b, c] :=
  List.length_eq_three.mp (by omega)

/-- One byte of a string: the escape goes on, or a piece of the content is complete. -/
theorem stringStep_begun {content read content' : Bytes} {mode mode' : StringMode} {b : UInt8}
    (hbegun : Begun mode read)
    (hstep : stringStep content mode b = .ok (.more mode' content')) :
    (Begun mode' (read ++ [b]) ∧ content' = content) ∨
      ∃ piece, mode' = .plain ∧ content' = piece.reverse ++ content ∧
        SpellsPiece piece (read ++ [b]) := by
  cases hbegun with
  | plain =>
    unfold stringStep at hstep
    dsimp only at hstep
    split at hstep
    · cases hstep
    next hquote =>
      split at hstep
      next hbackslash =>
        cases hstep
        obtain rfl := eq_ofNat_of_glyph hbackslash
        exact .inl ⟨.escape, rfl⟩
      next hbackslash =>
        split at hstep
        · cases hstep
        next hcontrol =>
          cases hstep
          have hordinary : Ordinary b := by
            refine ⟨?_, ?_, ?_⟩
            · rw [UInt8.lt_iff_toNat_lt] at hcontrol
              exact Nat.not_lt.mp hcontrol
            · exact fun heq => hquote (Char.toNat_inj.mp ((toNat_glyph b).trans heq))
            · exact fun heq => hbackslash (Char.toNat_inj.mp ((toNat_glyph b).trans heq))
          exact .inr ⟨[b], rfl, rfl, .byte hordinary⟩
  | escape =>
    have hshort : ∀ {letter byte : UInt8},
        (∃ e ∈ shortEscapes, e.1 = letter ∧ Utf8.encodeChar e.2 = [byte]) →
        SpellsPiece [byte] [0x5C, letter] := by
      rintro _ byte ⟨⟨letter, c⟩, hmem, rfl, hbyte⟩
      rw [← hbyte]
      exact .char (.short hmem)
    unfold stringStep at hstep
    dsimp only at hstep
    -- One case for each letter that may follow the backslash.
    split at hstep
    case h_10 => cases hstep
    case h_9 hglyph =>
      cases hstep
      obtain rfl := eq_ofNat_of_glyph hglyph
      exact .inl ⟨(.unit (Nat.zero_le 3) : Begun (.hex none [].length (hexCode? [])) _), rfl⟩
    all_goals
      rename_i hglyph
      cases hstep
      obtain rfl := eq_ofNat_of_glyph hglyph
      exact .inr ⟨[_], rfl, rfl, hshort (by decide)⟩
  | @unit digits hlength =>
    unfold stringStep at hstep
    dsimp only at hstep
    rw [← hexCode?_snoc] at hstep
    split at hstep
    next hlt =>
      cases hstep
      have hnext : (digits ++ [b]).length = digits.length + 1 := List.length_append
      have hunit : Begun (.hex none (digits ++ [b]).length (hexCode? (digits ++ [b]))) _ :=
        .unit (by omega)
      rw [hnext] at hunit
      exact .inl ⟨hunit, rfl⟩
    next hge =>
      obtain ⟨d₁, d₂, d₃, rfl⟩ := exists_three_of_length hlength hge
      exact finishHex_unit ((hexCode?_eq_unit? d₁ d₂ d₃ b) ▸ hstep)
  | backslash h hhigh =>
    unfold stringStep at hstep
    dsimp only at hstep
    split at hstep
    next hglyph =>
      cases hstep
      obtain rfl := eq_ofNat_of_glyph hglyph
      exact .inl ⟨.letter h hhigh, rfl⟩
    · cases hstep
  | letter h hhigh =>
    unfold stringStep at hstep
    dsimp only at hstep
    split at hstep
    next hglyph =>
      cases hstep
      obtain rfl := eq_ofNat_of_glyph hglyph
      exact .inl ⟨(.pair h hhigh (Nat.zero_le 3) : Begun (.hex _ [].length (hexCode? [])) _), rfl⟩
    · cases hstep
  | @pair _ _ _ _ high h hhigh digits hlength =>
    unfold stringStep at hstep
    dsimp only at hstep
    rw [← hexCode?_snoc] at hstep
    split at hstep
    next hlt =>
      cases hstep
      have hnext : (digits ++ [b]).length = digits.length + 1 := List.length_append
      have hpair : Begun (.hex (some high) (digits ++ [b]).length (hexCode? (digits ++ [b]))) _ :=
        .pair h hhigh (by omega)
      rw [hnext] at hpair
      exact .inl ⟨hpair, rfl⟩
    next hge =>
      obtain ⟨d₁, d₂, d₃, rfl⟩ := exists_three_of_length hlength hge
      exact .inr (finishHex_pair h hhigh ((hexCode?_eq_unit? d₁ d₂ d₃ b) ▸ hstep))

/-- A string ends at a quote in plain content alone. -/
theorem stringStep_closed {content : Bytes} {mode : StringMode} {b : UInt8}
    (h : stringStep content mode b = .ok .closed) : mode = .plain ∧ b = 0x22 := by
  have hhex : ∀ lead code, finishHex content lead code ≠ .ok .closed := by
    intro lead code
    unfold finishHex
    split
    · nofun
    · split
      · split <;> nofun
      · split
        · nofun
        · split <;> nofun
  unfold stringStep at h
  split at h
  · split at h
    next hquote => exact ⟨rfl, eq_ofNat_of_glyph hquote⟩
    · split at h
      · cases h
      · split at h <;> cases h
  · split at h <;> cases h
  · split at h
    · cases h
    · exact absurd h (hhex _ _)
  · split at h <;> cases h
  · split at h <;> cases h

/-- What a string is read from: the rest of the escape that is begun, and pieces up to the quote. -/
theorem exists_content {content read s rest : Bytes} {mode : StringMode} {str : String}
    (hbegun : Begun mode read) (h : readString content mode s = .ok (str, rest)) :
    ∃ more body, read ++ s = body ++ 0x22 :: rest ∧ SpellsContent more body ∧
      content.reverse ++ more = utf8 str := by
  induction s generalizing content mode read with
  | nil => cases h
  | cons b s ih =>
    rw [readString] at h
    cases hstep : stringStep content mode b with
    | error cause =>
      rw [hstep] at h
      cases h
    | ok step =>
      rw [hstep] at h
      cases step with
      | closed =>
        obtain ⟨rfl, rfl⟩ := stringStep_closed hstep
        cases hbegun
        dsimp only at h
        unfold finishString at h
        split at h
        next hdecode =>
          cases h
          exact ⟨[], [], rfl, .nil, by rw [List.append_nil, Utf8.decode?_eq_some_iff.mp hdecode]⟩
        · cases h
      | more mode' content' =>
        dsimp only at h
        rcases stringStep_begun hbegun hstep with ⟨hnext, rfl⟩ | ⟨piece, rfl, rfl, hpiece⟩
        · obtain ⟨more, body, hbody, hcontent, htext⟩ := ih hnext h
          exact ⟨more, body, by rw [← hbody, List.append_assoc, List.singleton_append], hcontent,
            htext⟩
        · -- The piece comes before those that the rest of the string has.
          obtain ⟨more, body, hbody, hcontent, htext⟩ := ih .plain h
          refine ⟨piece ++ more, (read ++ [b]) ++ body, ?_, .cons hpiece hcontent, ?_⟩
          · rw [List.append_assoc, List.append_assoc, ← hbody]
            rfl
          · rw [← htext, List.reverse_append, List.reverse_reverse, List.append_assoc]

/-- Bytes that only continue a character stand for themselves. -/
theorem exists_spellsContent_of_continuation {tail content body : Bytes}
    (htail : ∀ b ∈ tail, Utf8.IsContinuation b) (h : SpellsContent (tail ++ content) body) :
    ∃ rest, body = tail ++ rest ∧ SpellsContent content rest := by
  induction tail generalizing body with
  | nil => exact ⟨body, rfl, h⟩
  | cons b tail ih =>
    obtain ⟨hb, htail⟩ := List.forall_mem_cons.mp htail
    generalize hwhole : b :: tail ++ content = whole at h
    cases h with
    | nil => cases hwhole
    | cons hpiece hrest =>
      cases hpiece with
      | byte hordinary =>
        obtain ⟨rfl, rfl⟩ := List.cons.inj hwhole
        obtain ⟨rest, rfl, hcontent⟩ := ih htail hrest
        exact ⟨rest, rfl, hcontent⟩
      | @char c t hchar =>
        obtain ⟨first, others, hbytes, hfirst, -⟩ := Utf8.exists_encodeChar_eq_cons c
        rw [hbytes] at hwhole
        obtain ⟨rfl, -⟩ := List.cons.inj hwhole
        exact absurd hb hfirst

/-- The pieces of a text are the texts of its characters. -/
theorem spellsChars_of_content {cs : List Char} {body : Bytes}
    (h : SpellsContent (Utf8.encode cs) body) : SpellsChars cs body := by
  induction cs generalizing body with
  | nil =>
    generalize hnil : Utf8.encode [] = content at h
    cases h with
    | nil => exact .nil
    | cons hpiece hrest =>
      cases hpiece with
      | byte => cases hnil
      | @char c t hchar =>
        have hempty := (List.append_eq_nil_iff.mp hnil.symm).1
        exact absurd hempty (Utf8.encodeChar_ne_nil c)
  | cons c cs ih =>
    generalize hwhole : Utf8.encode (c :: cs) = content at h
    replace hwhole : Utf8.encodeChar c ++ Utf8.encode cs = content := hwhole
    cases h with
    | nil =>
      have hempty := (List.append_eq_nil_iff.mp hwhole).1
      exact absurd hempty (Utf8.encodeChar_ne_nil c)
    | cons hpiece hrest =>
      cases hpiece with
      | char hchar =>
        obtain ⟨rfl, rfl⟩ := Utf8.encodeChar_append_inj hwhole
        exact .cons hchar (ih hrest)
      | @byte b hordinary =>
        -- The other bytes of the character follow the first one, each as it is.
        obtain ⟨first, tail, hbytes, -, htail⟩ := Utf8.exists_encodeChar_eq_cons c
        rw [hbytes] at hwhole
        obtain ⟨rfl, rfl⟩ := List.cons.inj hwhole
        obtain ⟨rest, rfl, hcontent⟩ := exists_spellsContent_of_continuation htail hrest
        have hascii : c.toNat < 0x80 → first.toNat = c.toNat := by
          intro hlt
          rw [Utf8.encodeChar_of_lt hlt] at hbytes
          rw [← (List.cons.inj hbytes).1, Utf8.toNat_ofNat_of_lt (by omega)]
        obtain ⟨hcontrol, hquote, hbackslash⟩ := hordinary
        have hitself : SpellsChar c (Utf8.encodeChar c) := by
          apply SpellsChar.itself
          · omega
          · rintro rfl
            exact hquote (hascii (by decide))
          · rintro rfl
            exact hbackslash (hascii (by decide))
        have hcons := SpellsChars.cons hitself (ih hcontent)
        rw [hbytes] at hcons
        exact hcons

/-- A string is read off a text of it. -/
theorem spells_of_readString {s rest : Bytes} {str : String}
    (h : readString [] .plain s = .ok (str, rest)) :
    ∃ t, SpellsString str (0x22 :: t) ∧ s = t ++ rest := by
  obtain ⟨more, body, hbody, hcontent, htext⟩ := exists_content .plain h
  rw [List.reverse_nil, List.nil_append] at htext
  subst htext
  refine ⟨body ++ [0x22], ⟨body, spellsChars_of_content hcontent, rfl⟩, ?_⟩
  rw [List.append_assoc]
  exact hbody

/-! ## Numbers -/

theorem digit_of_isDigitByte {b : UInt8} (h : isDigitByte b = true) :
    digitValue b < 10 ∧ UInt8.ofNat (0x30 + digitValue b) = b := by
  obtain ⟨hlow, hhigh⟩ := isDigitByte_eq_true_iff.mp h
  unfold digitValue
  refine ⟨by omega, ?_⟩
  rw [show 0x30 + (b.toNat - 0x30) = b.toNat by omega, UInt8.ofNat_toNat]

theorem digits_of_readDigits {s rest : Bytes} {ds : List Nat} (h : readDigits s = (ds, rest)) :
    (∀ d ∈ ds, d < 10) ∧ s = digitBytes ds ++ rest := by
  unfold readDigits at h
  obtain ⟨rfl, rfl⟩ := Prod.mk.inj h
  have hdigits : ∀ b ∈ s.takeWhile isDigitByte, isDigitByte b = true :=
    List.all_eq_true.mp List.all_takeWhile
  have hbytes : digitBytes ((s.takeWhile isDigitByte).map digitValue) =
      s.takeWhile isDigitByte := by
    unfold digitBytes
    rw [List.map_map]
    exact (List.map_congr_left fun b hb => (digit_of_isDigitByte (hdigits b hb)).2).trans
      (List.map_id _)
  refine ⟨?_, ?_⟩
  · intro d hd
    obtain ⟨b, hb, rfl⟩ := List.mem_map.mp hd
    exact (digit_of_isDigitByte (hdigits b hb)).1
  · rw [hbytes, List.takeWhile_append_dropWhile]

/-- A digit and those that follow it. -/
theorem digits_cons_of_readDigits {b : UInt8} {t rest : Bytes} {ds : List Nat}
    (hb : isDigitByte b = true) (h : readDigits t = (ds, rest)) :
    Digits (digitValue b :: ds) ∧ b :: t = digitBytes (digitValue b :: ds) ++ rest := by
  obtain ⟨hlt, hbyte⟩ := digit_of_isDigitByte hb
  obtain ⟨hds, rfl⟩ := digits_of_readDigits h
  refine ⟨⟨nofun, List.forall_mem_cons.mpr ⟨hlt, hds⟩⟩, ?_⟩
  unfold digitBytes
  rw [List.map_cons, hbyte, List.cons_append]

theorem whole_of_readWhole {s rest : Bytes} {ds : List Nat} (h : readWhole s = .ok (ds, rest)) :
    Whole ds ∧ s = digitBytes ds ++ rest := by
  cases s with
  | nil => cases h
  | cons b r =>
    have hzero : glyph b = '0' → (([0], r) : List Nat × Bytes) = (ds, rest) →
        Whole ds ∧ b :: r = digitBytes ds ++ rest := by
      intro hglyph heq
      cases heq
      obtain rfl := eq_ofNat_of_glyph hglyph
      exact ⟨⟨⟨nofun, by simp⟩, fun _ => rfl⟩, rfl⟩
    unfold readWhole at h
    dsimp only at h
    split at h
    next hglyph =>
      split at h
      · split at h
        · cases h
        · exact hzero hglyph (Except.ok.inj h)
      · exact hzero hglyph (Except.ok.inj h)
    next hglyph =>
      split at h
      next hdigit =>
        cases h
        obtain ⟨hdigits, hbytes⟩ := digits_cons_of_readDigits hdigit (t := r) rfl
        refine ⟨⟨hdigits, fun hhead => ?_⟩, hbytes⟩
        -- The first digit is no zero, or it would have stood alone.
        have hvalue : digitValue b = 0 := Option.some.inj hhead
        have hbyte := (digit_of_isDigitByte hdigit).2
        rw [hvalue] at hbyte
        exact absurd (by rw [← hbyte]; decide) hglyph
      · cases h

theorem fraction_of_readFraction {s rest : Bytes} {fraction : Option (List Nat)}
    (h : readFraction s = .ok (fraction, rest)) :
    ∃ t, SpellsFraction fraction t ∧ s = t ++ rest := by
  cases s with
  | nil =>
    cases h
    exact ⟨[], .none, rfl⟩
  | cons b r =>
    unfold readFraction at h
    dsimp only at h
    split at h
    next hglyph =>
      obtain rfl := eq_ofNat_of_glyph hglyph
      cases hread : readDigits r with
      | mk ds after =>
        rw [hread] at h
        obtain ⟨hds, rfl⟩ := digits_of_readDigits hread
        cases ds with
        | nil => cases after <;> cases h
        | cons d ds =>
          cases h
          exact ⟨_, .some ⟨nofun, hds⟩, rfl⟩
    · cases h
      exact ⟨[], .none, rfl⟩

theorem sign_of_readExponentSign {s rest : Bytes} {up : Bool}
    (h : readExponentSign s = (up, rest)) : ∃ sign, SpellsSign up sign ∧ s = sign ++ rest := by
  cases s with
  | nil =>
    cases h
    exact ⟨[], .bare, rfl⟩
  | cons b r =>
    unfold readExponentSign at h
    dsimp only at h
    split at h
    next hglyph =>
      cases h
      obtain rfl := eq_ofNat_of_glyph hglyph
      exact ⟨_, .up, rfl⟩
    · split at h
      next hglyph =>
        cases h
        obtain rfl := eq_ofNat_of_glyph hglyph
        exact ⟨_, .down, rfl⟩
      · cases h
        exact ⟨[], .bare, rfl⟩

theorem exponent_of_readExponent {s rest : Bytes} {exponent : Option (Bool × List Nat)}
    (h : readExponent s = .ok (exponent, rest)) :
    ∃ t, SpellsExponent exponent t ∧ s = t ++ rest := by
  cases s with
  | nil =>
    cases h
    exact ⟨[], .none, rfl⟩
  | cons b r =>
    unfold readExponent at h
    dsimp only at h
    split at h
    next hglyph =>
      have hletter : b = 0x65 ∨ b = 0x45 := by
        rw [Bool.or_eq_true, decide_eq_true_eq, decide_eq_true_eq] at hglyph
        exact hglyph.imp eq_ofNat_of_glyph eq_ofNat_of_glyph
      cases hsign : readExponentSign r with
      | mk up after =>
        rw [hsign] at h
        obtain ⟨sign, hspells, rfl⟩ := sign_of_readExponentSign hsign
        cases after with
        | nil => cases h
        | cons d t =>
          dsimp only at h
          split at h
          next hdigit =>
            cases hread : readDigits t with
            | mk ds last =>
              rw [hread] at h
              cases h
              obtain ⟨hdigits, hbytes⟩ := digits_cons_of_readDigits hdigit hread
              refine ⟨_, .some hletter hspells hdigits, ?_⟩
              rw [hbytes, List.cons_append, List.append_assoc]
          · cases h
    · cases h
      exact ⟨[], .none, rfl⟩

/-- A number is read off a literal of it. -/
theorem literal_of_readUnsigned {negative : Bool} {s rest : Bytes} {v : Json}
    (h : readUnsigned negative s = .ok (v, rest)) :
    ∃ l n t, l.negative = negative ∧ SpellsUnsigned l t ∧ l.value? = some n ∧ v = .number n ∧
      s = t ++ rest := by
  unfold readUnsigned at h
  obtain ⟨⟨whole, _⟩, hwhole, hpast⟩ := bind_eq_ok h
  obtain ⟨⟨fraction, _⟩, hfraction, hlast⟩ := bind_eq_ok hpast
  obtain ⟨⟨exponent, _⟩, hexponent, hnumber⟩ := bind_eq_ok hlast
  clear h hpast hlast
  obtain ⟨hspells, rfl⟩ := whole_of_readWhole hwhole
  obtain ⟨f, hspells', rfl⟩ := fraction_of_readFraction hfraction
  obtain ⟨e, hspells'', rfl⟩ := exponent_of_readExponent hexponent
  dsimp only at hnumber
  split at hnumber
  next n hvalue =>
    cases hnumber
    refine ⟨⟨negative, whole, fraction, exponent⟩, n, digitBytes whole ++ (f ++ e), rfl,
      ⟨f, e, hspells, hspells', hspells'', rfl⟩, hvalue, rfl, ?_⟩
    rw [List.append_assoc, List.append_assoc]
  · cases hnumber

/-! ## Scalars -/

theorem name_of_readName {α : Type} {value v : α} {name : List Char} {s rest : Bytes}
    (h : readName value name s = .ok (v, rest)) :
    v = value ∧ s = name.map (fun c => UInt8.ofNat c.toNat) ++ rest := by
  induction name generalizing s with
  | nil =>
    cases h
    exact ⟨rfl, rfl⟩
  | cons c name ih =>
    cases s with
    | nil => cases h
    | cons b r =>
      unfold readName at h
      split at h
      next hglyph =>
        obtain ⟨rfl, rfl⟩ := ih h
        exact ⟨rfl, by rw [eq_ofNat_of_glyph hglyph, List.map_cons, List.cons_append]⟩
      · cases h

/-- A scalar is read off a text of it. -/
theorem spells_of_readScalar {b : UInt8} {r rest : Bytes} {v : Json}
    (h : readScalar b r = .ok (v, rest)) : ∃ t, SpellsScalar v t ∧ b :: r = t ++ rest := by
  unfold readScalar at h
  split at h
  next hglyph =>
    obtain rfl := eq_ofNat_of_glyph hglyph
    obtain ⟨rfl, rfl⟩ := name_of_readName h
    exact ⟨_, .null, rfl⟩
  next hglyph =>
    obtain rfl := eq_ofNat_of_glyph hglyph
    obtain ⟨rfl, rfl⟩ := name_of_readName h
    exact ⟨_, .true, rfl⟩
  next hglyph =>
    obtain rfl := eq_ofNat_of_glyph hglyph
    obtain ⟨rfl, rfl⟩ := name_of_readName h
    exact ⟨_, .false, rfl⟩
  next hglyph =>
    obtain rfl := eq_ofNat_of_glyph hglyph
    obtain ⟨⟨s, _⟩, hstring, h⟩ := bind_eq_ok h
    cases h
    obtain ⟨t, hspells, rfl⟩ := spells_of_readString hstring
    exact ⟨_, .string hspells, rfl⟩
  next hglyph =>
    obtain rfl := eq_ofNat_of_glyph hglyph
    obtain ⟨l, n, t, hnegative, hspells, hvalue, rfl, rfl⟩ := literal_of_readUnsigned h
    refine ⟨0x2D :: t, .number ⟨t, hspells, ?_⟩ hvalue, rfl⟩
    rw [if_pos hnegative, List.singleton_append]
  next =>
    split at h
    · obtain ⟨l, n, t, hnegative, hspells, hvalue, rfl, hbytes⟩ := literal_of_readUnsigned h
      refine ⟨t, .number ⟨t, hspells, ?_⟩ hvalue, hbytes⟩
      rw [if_neg (by rw [hnegative]; decide), List.nil_append]
    · cases h

end Reindex.Json
