import SurfaceDrift.Decimal.Notation
import SurfaceDrift.Text.Edits

/-!
# Points and their distances

Points are compared as vectors where both are vectors of one width (`euclidean`), and as
texts otherwise (`Text.relativeEditDistance`). `distanceMatrix` holds the distances between
all points of a list; a point is at distance zero from itself.
-/

namespace SurfaceDrift

/-- What is compared : numbers, or a text. -/
inductive Point where
  | vector (values : List Float)
  | text (value : String)

/-- The sum of doubles from the first on, which is `-0.0` for none. -/
def sumFloats (values : List Float) : Float :=
  values.foldl (· + ·) (-0.0)

namespace Point

/-- A point as a text; numbers are written without exponents, a space between two. -/
def toText : Point → String
  | vector values => " ".intercalate (values.map Decimal.plain.write)
  | text value => value

/-- The distance between two vectors of one width. -/
def euclidean (a b : List Float) : Float :=
  (sumFloats (List.zipWith (fun x y => (x - y) * (x - y)) a b)).sqrt

/-- The distance between two points. -/
def distance (a b : Point) : Float :=
  match a, b with
  | vector x, vector y =>
    if x.length = y.length then euclidean x y
    else Text.relativeEditDistance a.toText b.toText
  | _, _ => Text.relativeEditDistance a.toText b.toText

/-- The distances from the point at `index` to all points. -/
def distanceRow (points : List Point) (index : Nat) (a : Point) : List Float :=
  points.zipIdx.map fun entry => if index = entry.2 then 0.0 else distance a entry.1

/-- The distances between all points, a row for each. -/
def distanceMatrix (points : List Point) : List (List Float) :=
  points.zipIdx.map fun entry => distanceRow points entry.2 entry.1

end Point

end SurfaceDrift
