/-!
# Edit distance

`editDistance a b` is the least number of characters to insert, to drop or to replace
that turns `a` into `b`, found one row at a time : a row holds the distances from one
beginning of `a` to every beginning of `b` (`nextRow`).
-/

namespace SurfaceDrift.Text

/-- The rest of the row for one more character `c` of the first text. `left` is the entry
before, `diagonal` the one above it, and the row above goes on along the second text. -/
def nextRowFrom (c : Char) (left diagonal : Nat) : List Char → List Nat → List Nat
  | d :: ds, above :: row =>
    let entry := min (min (diagonal + if c = d then 0 else 1) (above + 1)) (left + 1)
    entry :: nextRowFrom c entry above ds row
  | _, _ => []

/-- The row for one more character of the first text. -/
def nextRow (c : Char) (b : List Char) : List Nat → List Nat
  | first :: row => (first + 1) :: nextRowFrom c (first + 1) first b row
  | [] => []

/-- The row after all characters of `a`, from `row`. -/
def lastRow (b : List Char) : List Char → List Nat → List Nat
  | [], row => row
  | c :: a, row => lastRow b a (nextRow c b row)

/-- The least number of single edits that turn `a` into `b`. -/
def editDistance (a b : String) : Nat :=
  (lastRow b.toList a.toList (List.range (b.length + 1))).getLastD 0

/-- The edit distance as a part of the longer length; 0 between empty texts. -/
def relativeEditDistance (a b : String) : Float :=
  let longest := max a.length b.length
  if longest = 0 then 0.0 else Float.ofNat (editDistance a b) / Float.ofNat longest

end SurfaceDrift.Text
