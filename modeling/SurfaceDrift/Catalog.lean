import SurfaceDrift.Algorithm
import SurfaceDrift.Options
import SurfaceDrift.Text.Quoted

/-!
# The catalog of algorithms

A descriptor tells what an algorithm is called, what it is for, and how it is built from
parameters. The catalog holds descriptors under their names in lowercase, and only those
that `Descriptor.validate` accepts : the name is one word, and the algorithm can be built
without parameters. `Catalog.discover` passes over the others and notes why; a later
descriptor takes the place of an earlier one of the same name.
-/

namespace SurfaceDrift

/-- What an algorithm is for. -/
inductive AlgorithmCategory where
  | clustering
  | dimensionReduction
  | featureExtraction
  | transformation
  | normalization
deriving DecidableEq, Repr

/-- The name of a category. -/
def AlgorithmCategory.label : AlgorithmCategory → String
  | clustering => "clustering"
  | dimensionReduction => "dimension_reduction"
  | featureExtraction => "feature_extraction"
  | transformation => "transformation"
  | normalization => "normalization"

/-- The category of a name in debug output. -/
def AlgorithmCategory.variantName : AlgorithmCategory → String
  | clustering => "Clustering"
  | dimensionReduction => "DimensionReduction"
  | featureExtraction => "FeatureExtraction"
  | transformation => "Transformation"
  | normalization => "Normalization"

/-- An algorithm as the catalog knows it. -/
structure Descriptor where
  display : String
  category : AlgorithmCategory
  summary : String
  options : List OptionSpec
  build : Params → Except Error Algorithm

namespace Descriptor

/-- The name under which the algorithm is found. -/
def name (d : Descriptor) : String := Text.lower d.display

/-- Refuses a name that is not one word, and an algorithm that needs parameters. -/
def validate (d : Descriptor) : Except Error Unit :=
  if Text.isWord d.name then
    match d.build [] with
    | .ok _ => .ok ()
    | .error cause => .error (.configuration (.unusableDefaults d.display cause.message))
  else .error (.configuration (.badAlgorithmName d.display))

/-- The descriptor on one line, for the author of an algorithm. -/
def debugText (d : Descriptor) : String :=
  "AlgorithmDescriptor \x7b name: " ++ Text.quoted d.name ++ ", category: " ++
    d.category.variantName ++ ", options: [" ++
    ", ".intercalate (d.options.map fun o => Text.quoted o.key) ++ "] \x7d"

end Descriptor

/-- A descriptor that was passed over. -/
structure Skipped where
  display : String
  reason : String
deriving DecidableEq, Repr

/-- The descriptors by name, and those that were passed over. -/
structure Catalog where
  entries : Fields Descriptor
  skipped : List Skipped

namespace Catalog

/-- A catalog of nothing. -/
def empty : Catalog := ⟨[], []⟩

/-- Puts a valid descriptor under its name, in place : how that ends, and the catalog after
it. -/
def enter (c : Catalog) (d : Descriptor) : Except Error Unit × Catalog :=
  match d.validate with
  | .ok () => (.ok (), { c with entries := Fields.insert c.entries d.name d })
  | .error cause => (.error cause, c)

/-- The catalog with a valid descriptor under its name. -/
def register (c : Catalog) (d : Descriptor) : Except Error Catalog :=
  match c.enter d with
  | (.ok (), after) => .ok after
  | (.error cause, _) => .error cause

/-- Puts a descriptor under its name, or notes why it cannot be. -/
def registerOrSkip (c : Catalog) (d : Descriptor) : Catalog :=
  match c.enter d with
  | (.ok (), after) => after
  | (.error cause, after) =>
    { after with skipped := after.skipped ++ [⟨d.display, cause.message⟩] }

/-- The catalog after calls that put descriptors into it, one after another. Nobody looks at
how they end. -/
def enterAll (c : Catalog) (descriptors : List Descriptor) : Catalog :=
  descriptors.foldl (fun c d => (c.enter d).2) c

/-- The catalog of the valid ones among some descriptors. -/
def discover (descriptors : List Descriptor) : Catalog :=
  descriptors.foldl registerOrSkip empty

/-- The descriptor of a name in any letter case. -/
def get? (c : Catalog) (name : String) : Option Descriptor :=
  Fields.find? c.entries (Text.lower name)

/-- The names, in order. -/
def names (c : Catalog) : List String := Fields.names c.entries

/-- The descriptor of a name in any letter case, or an error that tells all names. -/
def resolve (c : Catalog) (name : String) : Except Error Descriptor :=
  match c.get? name with
  | some d => .ok d
  | none => .error (.unknownAlgorithm name c.names)

end Catalog

end SurfaceDrift
