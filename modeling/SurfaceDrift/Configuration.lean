import SurfaceDrift.Parameters
import SurfaceDrift.Toml.Reader

/-!
# Configuration files

A configuration names the algorithms that a comparison runs when the caller names none, the
number of its workers, and parameters of algorithms. It is a text of TOML in which unknown
names mean nothing, as long as their values can be read; `Configuration.parse` refuses a text
that has another shape, no worker, or an empty list of algorithms. Parameters that the caller
assigns take the place of those in the file (`Configuration.assigned`).
-/

namespace SurfaceDrift

/-- What a comparison does when the caller does not say. -/
structure ComparisonDefaults where
  algorithms : Option (List String)
  workers : Option Nat

/-- What a configuration file says. -/
structure Configuration where
  comparison : Option ComparisonDefaults
  params : ParamSet

/-- Whether every value under a name that means nothing can be read. -/
def strangersAreReadable (known : List String) (entries : List (String × Toml.Value)) : Bool :=
  Toml.Value.haveReadable (entries.filter fun entry => !known.contains entry.1)

namespace ComparisonDefaults

/-- Names of algorithms : a list of texts. -/
def algorithms? : Toml.Value → Option (List String)
  | .list items =>
    items.mapM fun item =>
      match item with
      | .text name => some name
      | _ => none
  | _ => none

/-- A number of workers : a whole number of at most 64 bits that is not negative. -/
def workers? : Toml.Value → Option Nat
  | .integer n => if 0 ≤ n && n ≤ Decimal.maxUInt64 then some n.toNat else none
  | _ => none

/-- The defaults that a table states under the names `algorithms` and `jobs`, any of them
absent. -/
def ofEntries? (entries : List (String × Toml.Value)) : Option ComparisonDefaults := do
  if !strangersAreReadable ["algorithms", "jobs"] entries then none
  return ⟨← (Fields.find? entries "algorithms").mapM algorithms?,
    ← (Fields.find? entries "jobs").mapM workers?⟩

/-- The defaults that a value states : a table, or a list that begins with the two values. -/
def ofValue? (v : Toml.Value) : Option ComparisonDefaults :=
  match v with
  | .list items => do
    return ⟨← items[0]?.mapM algorithms?, ← items[1]?.mapM workers?⟩
  | _ => v.entries?.bind ofEntries?

/-- Refuses no worker, and an empty list of algorithms. -/
def validate (defaults : ComparisonDefaults) : Except ConfigurationFault Unit :=
  if defaults.workers = some 0 then .error .noWorkers
  else if defaults.algorithms = some [] then .error .noDefaultAlgorithms
  else .ok ()

end ComparisonDefaults

namespace Configuration

/-- The configuration that says nothing. -/
def empty : Configuration := ⟨none, []⟩

/-- The configuration that named values state. -/
def ofEntries? (entries : List (String × Toml.Value)) : Option Configuration := do
  if !strangersAreReadable ["compare", "params"] entries then none
  let comparison ← (Fields.find? entries "compare").mapM ComparisonDefaults.ofValue?
  let params ← (Fields.find? entries "params").mapM fun v =>
    v.toDocument?.bind ParamSet.ofDocument?
  return ⟨comparison, params.getD []⟩

/-- The configuration in the text of a file, with the names of algorithms in lowercase. -/
def parse (text : String) : Except ConfigurationFault Configuration :=
  match (Toml.parse? text).bind ofEntries? with
  | none => .error .malformedFile
  | some c => do
    c.comparison.forM ComparisonDefaults.validate
    return { c with params := c.params.caseFolded }

/-- The algorithms that a comparison runs when the caller names none. -/
def defaultAlgorithms (c : Configuration) : Option (List String) :=
  c.comparison.bind ComparisonDefaults.algorithms

/-- The number of workers when the caller gives none. -/
def defaultWorkers (c : Configuration) : Option Nat :=
  c.comparison.bind ComparisonDefaults.workers

/-- The parameters of the file, with those that the caller assigns in their place. -/
def assigned (c : Configuration) (assignments : List String) : Except Error ParamSet := do
  return c.params.merge (← ParamSet.assignAll [] assignments)

end Configuration

end SurfaceDrift
