import SurfaceDrift.Decimal.Shortest

/-!
# Written numbers

`Layout` holds the decisions of a way to write doubles : which sizes are written without
an exponent, how an exponent is marked, and whether a whole number keeps a decimal.
`Layout.write` applies them to the shortest digits. `plain` never uses an exponent and
`document` is the layout of documents. `fixed` rounds to a fixed number of decimals.
-/

namespace SurfaceDrift.Decimal

/-- The decisions of a way to write doubles. -/
structure Layout where
  /-- Whether a number whose first digit has this place is written without an exponent. -/
  positional : Int → Bool
  /-- A whole number ends with `.0`. -/
  keepsPoint : Bool
  /-- Written before an exponent that is not negative. -/
  exponentSign : String
  tie : Tie
  notANumber : String
  infinity : String

/-- The decimal digits of a number. -/
def digitsOf (n : Nat) : List Char := Nat.toDigits 10 n

/-- `digits · 10 ^ exponent` without an exponent. -/
def positionalText (keepsPoint : Bool) (d : Digits) : String :=
  let ds := digitsOf d.digits
  let tail := if keepsPoint then ['.', '0'] else []
  if 0 ≤ d.exponent then String.ofList (ds ++ List.replicate d.exponent.natAbs '0' ++ tail)
  else
    let places := d.exponent.natAbs
    if places < ds.length then
      String.ofList (ds.take (ds.length - places) ++ '.' :: ds.drop (ds.length - places))
    else String.ofList ('0' :: '.' :: (List.replicate (places - ds.length) '0' ++ ds))

/-- One digit before the point, and an exponent. -/
def scientificText (sign : String) (d : Digits) : String :=
  let ds := digitsOf d.digits
  let exponent : Int := d.exponent + (ds.length - 1 : Nat)
  let mark := if 0 ≤ exponent then sign else "-"
  let significand :=
    match ds with
    | first :: second :: rest => first :: '.' :: second :: rest
    | few => few
  String.ofList significand ++ "e" ++ mark ++ String.ofList (digitsOf exponent.natAbs)

/-- A double in this layout. -/
def Layout.write (l : Layout) (x : Float) : String :=
  let signed (negative : Bool) (text : String) := if negative then "-" ++ text else text
  match Reading.of x with
  | .notANumber => l.notANumber
  | .infinite negative => signed negative l.infinity
  | .finite negative ⟨0, _⟩ => signed negative (if l.keepsPoint then "0.0" else "0")
  | .finite negative d =>
    let digits := shortest l.tie d
    let place : Int := digits.exponent + ((digitsOf digits.digits).length - 1 : Nat)
    signed negative <|
      if l.positional place then positionalText l.keepsPoint digits
      else scientificText l.exponentSign digits

/-- Never an exponent, no decimals on a whole number : `1`, `0.0000001`, `-0`. -/
def plain : Layout where
  positional := fun _ => true
  keepsPoint := false
  exponentSign := ""
  tie := .up
  notANumber := "NaN"
  infinity := "inf"

/-- An exponent below `1e-5` and from `1e+16` on, and always a decimal elsewhere. -/
def document : Layout where
  positional := fun place => -5 ≤ place && place < 16
  keepsPoint := true
  exponentSign := "+"
  tie := .toEven
  notANumber := "null"
  infinity := "null"

/-- A double with `places` decimals, rounded once from its exact value, a tie going to the
even digit. -/
def fixed (places : Nat) (x : Float) : String :=
  match Reading.of x with
  | .finite negative ⟨m, e⟩ =>
    let num := if 0 ≤ e then m * twoTo e.natAbs else m
    let den := if 0 ≤ e then 1 else twoTo e.natAbs
    let units := divideToEven (num * tenTo places) den
    let whole := String.ofList (digitsOf (units / tenTo places))
    let decimals := digitsOf (units % tenTo places)
    let padded := String.ofList (List.replicate (places - decimals.length) '0' ++ decimals)
    (if negative then "-" else "") ++ whole ++ if places = 0 then "" else "." ++ padded
  | _ => plain.write x

end SurfaceDrift.Decimal
