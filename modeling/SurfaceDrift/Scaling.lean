import SurfaceDrift.Algorithm
import SurfaceDrift.Document.Leaves
import SurfaceDrift.Options

/-!
# Scaling into a range

The numeric leaves of a document are moved into a target range, the least one to its lower
end and the greatest one to its upper end. What counts as least and greatest is taken from
each document itself or from all data together. Leaves that are all equal go to the middle
of the target.
-/

namespace SurfaceDrift.Scaling

/-- The name of the algorithm. -/
def name : String := "minmaxscaler"

/-! ## Parameters -/

/-- The target range, and whether each document is scaled by its own numbers. -/
structure Params where
  lo : Float
  hi : Float
  perStructure : Bool

/-- The declared options. -/
def options : List OptionSpec := [
  ⟨"feature_range", .floatPair, "(0, 1)", "Target range (lo, hi) of the scaled values"⟩,
  ⟨"per_structure", .boolean, "true",
    "Scale each structure by its own range instead of the fitted global range"⟩]

/-- The parameters that the options spell. -/
def Params.of (params : SurfaceDrift.Params) : Except Error Params := do
  let given ← Options.of name (options.map OptionSpec.key) params
  let (lo, hi) ← given.floatPair "feature_range" (0.0, 1.0)
  if !(Decimal.isFinite lo && Decimal.isFinite hi) then
    .error (.configuration (.boundsNotFinite name lo hi))
  else if hi ≤ lo then .error (.configuration (.emptyRange name lo hi))
  else
    let perStructure ← given.boolean "per_structure" true
    return ⟨lo, hi, perStructure⟩

/-! ## Ranges -/

/-- The least and the greatest of some numbers. -/
structure Range where
  min : Float
  max : Float

/-- The range with one more number in it. Of two equal ends the later one is kept, which
tells the two zeros apart. -/
def Range.extend (r : Range) (x : Float) : Range :=
  ⟨if r.min < x then r.min else x, if x < r.max then r.max else x⟩

/-- The range of one or more numbers. -/
def Range.of? : List Float → Option Range
  | [] => none
  | x :: rest => some (rest.foldl Range.extend ⟨x, x⟩)

/-- The number between `lo` and `hi` that is nearest to `x`, where `lo` is at most `hi`. -/
def clamp (lo hi x : Float) : Float :=
  let raised := if x < lo then lo else x
  if hi < raised then hi else raised

/-- Half of the width of a range, which is not too great for a double. -/
def Range.halfWidth (r : Range) : Float := r.max / 2.0 - r.min / 2.0

/-- Whether a number is one of the range. -/
def Range.holds (r : Range) (x : Float) : Bool := r.min ≤ x && x ≤ r.max

/-- Moves `x` from the source range to the target. All offsets are of halves, so that no
width is too great for a double, and a number of the source range does not leave the
target by rounding. -/
def scale (source : Range) (lo hi x : Float) : Float :=
  if source.halfWidth == 0.0 then lo / 2.0 + hi / 2.0
  else
    let t := (x / 2.0 - source.min / 2.0) / source.halfWidth
    let scaled := lo * (1.0 - t) + hi * t
    if source.holds x then clamp lo hi scaled else scaled

/-- Whether a number is clamped on its way from the source range. -/
def Range.clamps (source : Range) (x : Float) : Bool :=
  !(source.halfWidth == 0.0) && source.holds x

/-! ## The algorithm -/

/-- The range of all numbers of the data. -/
def fit (data : List Document) : Except Error Range :=
  match Range.of? (data.flatMap Document.numbers) with
  | some range => .ok range
  | none => .error (.data .noNumbers)

/-- A document moved from a source range to the target. To clamp a number to a target whose
ends are out of order is a panic. -/
def rescale (params : Params) (source : Range) (d : Document) : Except Panic Document :=
  if !(params.lo ≤ params.hi) && d.numbers.any source.clamps then
    .error (.text "min > max, or either was NaN")
  else .ok (d.mapNumbers (scale source params.lo params.hi))

/-- A document scaled by its own range, or by the range of all data. -/
def scaleDocument (params : Params) (global : Range) (d : Document) : Except Panic Document :=
  if params.perStructure then
    match Range.of? d.numbers with
    | some source => rescale params source d
    | none => .ok d
  else rescale params global d

/-- The scaled documents. -/
def transform (params : Params) (fitted : Option Range) (data : List Document) :
    Except Failure Document :=
  match fitted with
  | none => .error (.error (.notFitted name))
  | some global =>
    match data.mapM (scaleDocument params global) with
    | .ok scaled => .ok (.list scaled)
    | .error payload => .error (.panic payload)

/-- The scaling with its parameters chosen. -/
def learner (params : Params) : Learner Range where
  name := name
  fit := fun data => Learner.remember ((fit data).mapError .error)
  transform := transform params

end SurfaceDrift.Scaling
