import SurfaceDrift.Decimal.Double

/-!
# Reading numbers

`float?` reads a decimal text as the double next to it, and `integer64?` a whole number
that a signed word of 64 bits holds. Both take the whole text or nothing.
-/

namespace SurfaceDrift.Decimal

/-- The value of a digit. -/
def digitValue (c : Char) : Nat := c.toNat - '0'.toNat

/-- The number that the digits spell, after `n`. -/
def valueFrom (n : Nat) : List Char → Nat
  | [] => n
  | c :: cs => valueFrom (10 * n + digitValue c) cs

/-- The number that the digits spell. -/
def value (digits : List Char) : Nat := valueFrom 0 digits

/-- The digits at the start, and the rest. -/
def spanDigits (cs : List Char) : List Char × List Char :=
  cs.span Char.isDigit

/-- A sign at the start, if there is one : whether it is a minus, and the rest. -/
def takeSign : List Char → Bool × List Char
  | '-' :: cs => (true, cs)
  | '+' :: cs => (false, cs)
  | cs => (false, cs)

/-- The exponent at the end of a number : nothing, or `e`, a sign and digits. -/
def exponent? : List Char → Option Int
  | [] => some 0
  | c :: cs =>
    if c = 'e' || c = 'E' then
      let (negative, digits) := takeSign cs
      if digits.isEmpty || !digits.all Char.isDigit then none
      else some (if negative then -(value digits : Int) else value digits)
    else none

/-- Digits with at most one point among them, and an exponent. -/
def unsigned? (negative : Bool) (cs : List Char) : Option Float :=
  let (whole, rest) := spanDigits cs
  let (fraction, rest) :=
    match rest with
    | '.' :: more => spanDigits more
    | other => ([], other)
  if whole.isEmpty && fraction.isEmpty then none
  else (exponent? rest).map fun e =>
    ofDecimal negative (value (whole ++ fraction)) (e - fraction.length)

/-- The double that a text spells. `inf`, `infinity` and `nan` are doubles too, in any
letter case. -/
def float? (s : String) : Option Float :=
  let (negative, cs) := takeSign s.toList
  let lowered := String.ofList (cs.map Char.toLower)
  if lowered == "inf" || lowered == "infinity" then
    some (Float.ofBits (UInt64.ofNat (infinityBits + if negative then twoTo 63 else 0)))
  else if lowered == "nan" then some (0.0 / 0.0)
  else unsigned? negative cs

/-- The least whole number of a signed word. -/
def minInt64 : Int := -(twoTo 63 : Int)

/-- The greatest whole number of a signed word. -/
def maxInt64 : Int := (twoTo 63 : Int) - 1

/-- The greatest whole number of an unsigned word. -/
def maxUInt64 : Int := (twoTo 64 : Int) - 1

/-- The whole number that a text of an optional sign and digits spells, if a signed word
holds it. -/
def integer64? (s : String) : Option Int :=
  let (negative, digits) := takeSign s.toList
  if digits.isEmpty || !digits.all Char.isDigit then none
  else
    let n : Int := if negative then -(value digits : Int) else value digits
    if minInt64 ≤ n && n ≤ maxInt64 then some n else none

end SurfaceDrift.Decimal
