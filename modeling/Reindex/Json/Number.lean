import Reindex.Decimal.Shortest
import Reindex.Json.Value

/-!
# Numbers in JSON texts

How a number literal is turned into a `Number`, and how a `Number` is written.

A literal without fraction and exponent that fits 64 bits is the integer it spells.  Every other
literal is a float, computed from at most the digits that fit 64 bits and one multiplication or
division by a power of ten; the result is within a rounding or two of the written number and not
always the nearest float.

A float is written with the fewest digits that read back, positionally from `0.00001` up to below
`10 ^ 16`, with an exponent otherwise.
-/

namespace Reindex

namespace Number

/-- The digits of a literal: its sign, its integer part, its fraction if it has one, and its
exponent if it has one, with the exponent's sign. -/
structure Literal where
  negative : Bool
  whole : List Nat
  fraction : Option (List Nat)
  exponent : Option (Bool × List Nat)
  deriving DecidableEq, Repr

/-- The largest 64-bit word. -/
def maxWord : Nat := 0xFFFFFFFFFFFFFFFF

/-- The largest exponent that is read; it is the largest signed 32-bit integer. -/
def maxExponent : Nat := 0x7FFFFFFF

/-- Appends digits to `acc` as long as the result stays within `limit`; also the digits left over.
-/
def gather (limit acc : Nat) : List Nat → Nat × List Nat
  | [] => (acc, [])
  | d :: ds =>
    if acc * 10 + d ≤ limit then gather limit (acc * 10 + d) ds else (acc, d :: ds)

/-- `f · 10 ^ e`, by one multiplication or division by a power of ten up to `10 ^ 308`, after
divisions by `10 ^ 308` while the exponent is below `-308`.  `none` when the result is too large. -/
def scale (f : Float) (e : Int) : Option Float :=
  if e < -308 then
    if f == 0.0 then some f else scale (f / 1e308) (e + 308)
  else if e < 0 then some (f / Float.ofScientific 1 false (-e).toNat)
  else if e ≤ 308 then
    let product := f * Float.ofScientific 1 false e.toNat
    if product.isInf then none else some product
  else if f == 0.0 then some f
  else none
termination_by e.natAbs
decreasing_by omega

/-- The float with the sign of the literal. -/
def signed (negative : Bool) (f : Float) : Number := .float (if negative then -f else f)

/-- Where the exponent's digits pass the largest exponent: how many digits follow that one. -/
def Literal.overflow? (l : Literal) : Option Nat :=
  match l.exponent with
  | none => none
  | some (_, ds) => match gather maxExponent 0 ds with
    | (_, []) => none
    | (_, _ :: rest) => some rest.length

/-- The number a literal stands for, or `none` when it is out of range. -/
def Literal.value? (l : Literal) : Option Number :=
  let (whole, unread) := gather maxWord 0 l.whole
  match l.fraction, l.exponent, unread with
  | none, none, [] =>
    if !l.negative then some (.int whole)
    else if 0 < whole ∧ whole ≤ 0x8000000000000000 then some (.int (-whole))
    else some (signed true whole.toUInt64.toFloat)
  | fraction, exponent, unread =>
    let digits := fraction.getD []
    let (word, unused) := gather maxWord whole digits
    let place : Int := unread.length - (digits.length - unused.length : Nat)
    let result := match exponent with
      | none => scale word.toUInt64.toFloat place
      | some (up, ds) => match gather maxExponent 0 ds with
        | (e, []) => scale word.toUInt64.toFloat (if up then place + e else place - e)
        | (_, _ :: _) => if word != 0 && up then none else some 0.0
    result.map (signed l.negative)

/-! ## Writing -/

/-- The layout of floats: the decimal exponents written positionally, from the lowest to the
highest. -/
structure Layout where
  lowest : Int
  highest : Int

/-- Floats from `0.00001` to below `10 ^ 16` are written positionally. -/
def layout : Layout := ⟨-5, 15⟩

/-- The decimal digits of a natural number. -/
def digits (n : Nat) : List Char := Nat.toDigits 10 n

/-- An integer, with a sign if it is negative. -/
def intChars : Int → List Char
  | .ofNat n => digits n
  | .negSucc n => '-' :: digits (n + 1)

/-- A positive decimal: positional with at least one digit on either side of the point, or one digit
before the point (and no point if no other digit follows), `e`, and an exponent with its sign. -/
def scaledChars (layout : Layout) (s : Decimal.Scaled) : List Char :=
  let ds := digits s.digits
  let top : Int := s.exponent + ds.length - 1
  if layout.lowest ≤ top ∧ top ≤ layout.highest then
    if 0 ≤ s.exponent then ds ++ List.replicate s.exponent.toNat '0' ++ ['.', '0']
    else if 0 ≤ top then ds.take (top.toNat + 1) ++ '.' :: ds.drop (top.toNat + 1)
    else '0' :: '.' :: List.replicate ((-top).toNat - 1) '0' ++ ds
  else
    let mantissa := match ds with
      | d :: rest@(_ :: _) => d :: '.' :: rest
      | short => short
    mantissa ++ 'e' :: (if top < 0 then '-' else '+') :: digits top.natAbs

/-- The highest of the 53 bits of a float's digits, which is not stored. -/
def hiddenBit : Nat := 0x10000000000000

/-- A finite float: its sign and the shortest decimal that reads back. -/
def floatChars (f : Float) : List Char :=
  let bits := f.toBits.toNat
  let sign := if bits / 0x8000000000000000 = 1 then ['-'] else []
  let exponent : Nat := bits / hiddenBit % 0x800
  let mantissa : Nat := bits % hiddenBit
  sign ++
    if exponent = 0 then
      if mantissa = 0 then ['0', '.', '0']
      else scaledChars layout (Decimal.shortest mantissa (-1074) false)
    else
      scaledChars layout
        (Decimal.shortest (hiddenBit + mantissa) ((exponent : Int) - 1075)
          (mantissa == 0 && exponent != 1))

/-- The characters of a number. -/
def chars : Number → List Char
  | .int n => intChars n
  | .float f => floatChars f

end Number

end Reindex
