/-!
# The shortest decimal that reads back

A positive number of a binary format is `m · 2 ^ q`, and every real number in an interval around it
rounds to it.  Among the decimals in that interval this module picks one with the fewest digits,
of those the nearest to the number, and of two equally near the one whose last digit is even.

All arithmetic is exact, on `Nat`.  The grid of the multiples of `10 ^ k` is tried for falling `k`;
if any of its points lies in the interval, one of the number's two neighbours on the grid does.
-/

namespace Reindex.Decimal

/-- A positive decimal: `digits · 10 ^ exponent`. -/
structure Scaled where
  digits : Nat
  exponent : Int
  deriving DecidableEq, Repr

/-- A positive binary number `4m · unit` with the ends of the interval that rounds to it.  The unit
is a quarter of the last place, given as the fraction `scale / base`. -/
structure Target where
  value : Nat
  low : Nat
  high : Nat
  scale : Nat
  base : Nat
  /-- Do the ends themselves round to the number? -/
  closed : Bool
  deriving DecidableEq, Repr

namespace Target

/-- The interval of `m · 2 ^ q`.  Below a power of two the numbers lie twice as close, so there the
interval reaches only half as far down (`narrow`). -/
def ofBinary (m : Nat) (q : Int) (narrow : Bool) : Target where
  value := 4 * m
  low := if narrow then 4 * m - 1 else 4 * m - 2
  high := 4 * m + 2
  scale := Nat.pow 2 (q - 2).toNat
  base := Nat.pow 2 (2 - q).toNat
  closed := m % 2 == 0

/-- The grid step `10 ^ k` and the unit over a common denominator: how much one grid step and one
unit count. -/
def steps (t : Target) (k : Int) : Nat × Nat :=
  (Nat.pow 10 k.toNat * t.base, Nat.pow 10 (-k).toNat * t.scale)

/-- Does the grid point `d · 10 ^ k` round to the number? -/
def holds (t : Target) (k : Int) (d : Nat) : Bool :=
  let (step, unit) := t.steps k
  let x := d * step
  if t.closed then t.low * unit ≤ x && x ≤ t.high * unit
  else t.low * unit < x && x < t.high * unit

/-- The neighbour of the number on the grid of `10 ^ k` that rounds to it, the nearer one if both
do. -/
def onGrid? (t : Target) (k : Int) : Option Nat :=
  let (step, unit) := t.steps k
  let x := t.value * unit
  let below := x / step
  let above := below + 1
  match t.holds k below && below != 0, t.holds k above with
  | false, false => none
  | true, false => some below
  | false, true => some above
  | true, true =>
    let down := x - below * step
    let up := above * step - x
    if down < up then some below
    else if up < down then some above
    else if below % 2 == 0 then some below
    else some above

/-- A power of ten above the number: no grid that coarse has a point below it but zero. -/
def magnitude (t : Target) : Int :=
  let whole := t.value * t.scale / t.base
  if whole = 0 then
    1 - ((Nat.toDigits 10 (t.base / (t.value * t.scale))).length : Int)
  else (Nat.toDigits 10 whole).length

/-- The coarsest grid with a point in the interval, from `10 ^ k` down; `tries` bounds the search.
-/
def search (t : Target) : (tries : Nat) → (k : Int) → Scaled
  | 0, k => ⟨t.value, k⟩
  | tries + 1, k =>
    match t.onGrid? k with
    | some d => ⟨d, k⟩
    | none => search t tries (k - 1)

end Target

/-- Without the zeros at the end of its digits. -/
def Scaled.trim (s : Scaled) : Scaled :=
  let cs := Nat.toDigits 10 s.digits
  let zeros := (cs.reverse.takeWhile (· == '0')).length
  ⟨s.digits / Nat.pow 10 zeros, s.exponent + zeros⟩

/-- The shortest decimal that rounds to `m · 2 ^ q`, for a positive `m` of at most 53 bits:
seventeen digits always suffice. -/
def shortest (m : Nat) (q : Int) (narrow : Bool) : Scaled :=
  let t := Target.ofBinary m q narrow
  (t.search 20 t.magnitude).trim

end Reindex.Decimal
