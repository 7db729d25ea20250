/-!
# Doubles as exact values

A finite double is a sign and a magnitude `significand · 2 ^ exponent` (`Magnitude`), and
`Reading.of` takes a double apart into one of these, an infinity or no number. The other
way, `nearestBits` is the double next to a positive fraction, a tie going to the even
significand, and `ofFraction` and `ofDecimal` are built on it, so that every text of a
number is rounded once.
-/

namespace SurfaceDrift.Decimal

/-- A power of two. -/
def twoTo (exponent : Nat) : Nat := Nat.pow 2 exponent

/-- A power of ten. -/
def tenTo (exponent : Nat) : Nat := Nat.pow 10 exponent

/-- The number `significand · 2 ^ exponent`. -/
structure Magnitude where
  significand : Nat
  exponent : Int
deriving Repr, DecidableEq

/-- What the bits of a double stand for. -/
inductive Reading where
  | notANumber
  | infinite (negative : Bool)
  | finite (negative : Bool) (magnitude : Magnitude)
deriving Repr, DecidableEq

/-- The number that a double is. -/
def Reading.of (x : Float) : Reading :=
  let bits := x.toBits.toNat
  let negative := bits / twoTo 63 == 1
  let exponent : Nat := bits / twoTo 52 % 2048
  let fraction := bits % twoTo 52
  if exponent = 2047 then
    if fraction = 0 then .infinite negative else .notANumber
  else if exponent = 0 then .finite negative ⟨fraction, -1074⟩
  else .finite negative ⟨fraction + twoTo 52, (exponent : Int) - 1075⟩

/-! ## The nearest double -/

/-- The quotient rounded to a whole number, a tie going to the even one. -/
def divideToEven (num den : Nat) : Nat :=
  let quotient := num / den
  let twice := 2 * (num % den)
  if den < twice || (twice == den && quotient % 2 == 1) then quotient + 1 else quotient

/-- `num / (den · 2 ^ exponent)`, rounded to a whole number. -/
def unitsOf (num den : Nat) (exponent : Int) : Nat :=
  if exponent < 0 then divideToEven (num * twoTo exponent.natAbs) den
  else divideToEven num (den * twoTo exponent.natAbs)

/-- Bits of the positive infinity. -/
def infinityBits : Nat := 2047 * twoTo 52

/-- The bits of the double next to `num / den`. The unit is the place of the last bit that
a double of this size has; where rounding reaches the next power of two, adding the units
to the exponent's bits carries over into it. -/
def nearestBits (num den : Nat) : Nat :=
  if num = 0 then 0
  else
    let estimate : Int := num.log2 - den.log2
    let below := if 0 ≤ estimate then decide (num < den * twoTo estimate.natAbs)
      else decide (num * twoTo estimate.natAbs < den)
    let size := if below then estimate - 1 else estimate
    let unit := max (size - 52) (-1074)
    min infinityBits ((unit + 1074).toNat * twoTo 52 + unitsOf num den unit)

/-- The double next to `±num / den`. -/
def ofFraction (negative : Bool) (num den : Nat) : Float :=
  Float.ofBits (UInt64.ofNat (nearestBits num den + if negative then twoTo 63 else 0))

/-- The double next to `±digits · 10 ^ exponent`. Far beyond the range of doubles the power
of ten is not computed : the result is an infinity or a zero there. Since ten lies between
the third and the fourth power of two, the number is at least `10 ^ atLeast` and less than
`10 ^ atMost`. -/
def ofDecimal (negative : Bool) (digits : Nat) (exponent : Int) : Float :=
  let atLeast : Int := digits.log2 / 4 + exponent
  let atMost : Int := digits.log2 / 3 + 1 + exponent
  if digits = 0 || atMost < -400 then ofFraction negative 0 1
  else if 400 < atLeast then
    Float.ofBits (UInt64.ofNat (infinityBits + if negative then twoTo 63 else 0))
  else if exponent < 0 then ofFraction negative digits (tenTo exponent.natAbs)
  else ofFraction negative (digits * tenTo exponent.natAbs) 1

/-- The double next to a whole number. -/
def ofInteger (n : Int) : Float :=
  ofFraction (n < 0) n.natAbs 1

/-! ## Whole numbers -/

/-- The whole number that a double is, if it is one. -/
def integer? (x : Float) : Option Int :=
  match Reading.of x with
  | .finite negative ⟨m, e⟩ =>
    let sign (n : Nat) : Int := if negative then -(n : Int) else n
    if 0 ≤ e then some (sign (m * twoTo e.natAbs))
    else if m % twoTo e.natAbs = 0 then some (sign (m / twoTo e.natAbs))
    else none
  | _ => none

/-- Neither infinite nor no number. -/
def isFinite (x : Float) : Bool :=
  match Reading.of x with
  | .finite _ _ => true
  | _ => false

end SurfaceDrift.Decimal
