import SurfaceDrift.Decimal.Double

/-!
# The fewest digits that read back

Every double owns the interval of reals that round to it (`Interval`). `shortest` looks at
the decimal grids of one digit, two digits and so on, tests the two neighbours of the
value on each grid, and stops at the first grid with a neighbour in the interval. Of two
such neighbours the nearer one is taken; `Tie` says which one of two equally near.
-/

namespace SurfaceDrift.Decimal

/-- Which of two equally near neighbours is taken. -/
inductive Tie where
  | toEven
  | up
deriving Repr, DecidableEq

/-- A positive value with the interval of reals that round to it. All three are multiples
of `1 / scale`, and the ends belong to the interval if `closed`. -/
structure Interval where
  low : Nat
  value : Nat
  high : Nat
  scale : Nat
  closed : Bool

/-- The interval of a positive double : half a unit to each side, and a quarter below a
power of two, where the doubles under it lie twice as dense. -/
def Interval.of (d : Magnitude) : Interval :=
  let step := if d.significand = twoTo 52 && -1074 < d.exponent then 1 else 2
  let exponent := d.exponent - 2
  let factor := if 0 ≤ exponent then twoTo exponent.natAbs else 1
  { low := (4 * d.significand - step) * factor
    value := 4 * d.significand * factor
    high := (4 * d.significand + 2) * factor
    scale := if 0 ≤ exponent then 1 else twoTo exponent.natAbs
    closed := d.significand % 2 == 0 }

/-- Whether `num / den` lies in the interval. -/
def Interval.contains (i : Interval) (num den : Nat) : Bool :=
  let point := num * i.scale
  if i.closed then i.low * den ≤ point && point ≤ i.high * den
  else i.low * den < point && point < i.high * den

/-- Decimal digits with the power of ten of the last one. -/
structure Digits where
  digits : Nat
  exponent : Int
deriving Repr, DecidableEq

/-- `10 ^ e` as a fraction. -/
def tenPower (e : Int) : Nat × Nat :=
  if 0 ≤ e then (tenTo e.natAbs, 1) else (1, tenTo e.natAbs)

/-- The greatest `e` with `10 ^ e ≤ value`, searched upwards from `e`. -/
def leadingPlace (i : Interval) : Nat → Int → Int
  | 0, e => e
  | fuel + 1, e =>
    let (num, den) := tenPower (e + 1)
    if num * i.scale ≤ i.value * den then leadingPlace i fuel (e + 1) else e

/-- A place at or a little under the leading one. -/
def placeEstimate (i : Interval) : Int :=
  ((i.value.log2 : Int) - i.scale.log2 - 1) * 30103 / 100000 - 1

/-- The neighbour of the value on the grid of the multiples of `10 ^ place` that lies in
the interval, if one does. -/
def neighbour? (tie : Tie) (i : Interval) (place : Int) : Option Nat :=
  let (num, den) := tenPower place
  let below := i.value * den / (i.scale * num)
  let above := below + 1
  let inside (n : Nat) := i.contains (n * num) den
  if inside below then
    if inside above then
      let under := 2 * (i.value * den)
      let middle := (below + above) * (num * i.scale)
      let takeBelow := if under = middle then tie == .toEven && below % 2 == 0
        else decide (under < middle)
      some (if takeBelow then below else above)
    else some below
  else if inside above then some above
  else none

/-- The first grid with a neighbour in the interval. -/
def firstGrid (tie : Tie) (i : Interval) : Nat → Int → Digits
  | 0, place => ⟨i.value / i.scale, place⟩
  | fuel + 1, place =>
    match neighbour? tie i place with
    | some n => ⟨n, place⟩
    | none => firstGrid tie i fuel (place - 1)

/-- Without zeros at the end. -/
def Digits.trimmed : Nat → Digits → Digits
  | 0, d => d
  | fuel + 1, d =>
    if d.digits ≠ 0 && d.digits % 10 = 0 then trimmed fuel ⟨d.digits / 10, d.exponent + 1⟩
    else d

/-- The fewest digits that read back as the positive double. Seventeen always do. -/
def shortest (tie : Tie) (d : Magnitude) : Digits :=
  let i := Interval.of d
  (firstGrid tie i 17 (leadingPlace i 5 (placeEstimate i))).trimmed 20

end SurfaceDrift.Decimal
