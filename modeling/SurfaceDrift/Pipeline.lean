import SurfaceDrift.Catalog
import SurfaceDrift.Decimal.Notation
import SurfaceDrift.Document.Leaves
import SurfaceDrift.Guard
import SurfaceDrift.Parameters

/-!
# Pipelines

A pipeline is written as steps between commas, each a label and the name of an algorithm
with a colon between them. `Pipeline.parse` finds the algorithms in a catalog, and
`Pipeline.run` runs the steps one after another on the data, every step on what the one
before it hands on. All steps are configured before the first one runs.
-/

namespace SurfaceDrift

/-- Fewer documents than this cannot be compared. -/
def minStructures : Nat := 2

/-- Refuses data of too few documents. -/
def ensureComparable (data : List Document) : Except Error Unit :=
  if data.length < minStructures then
    .error (.usage (.tooFewStructures minStructures data.length))
  else .ok ()

/-- A step : its label as written, and its algorithm. -/
structure Step where
  stage : String
  descriptor : Descriptor

/-- The name of a step's algorithm. -/
def Step.algorithm (s : Step) : String := s.descriptor.name

/-- Splits one step into its label and the name of its algorithm, both as written. -/
def parseStep (text : String) : Except Error (String × String) :=
  let trimmed := Text.trim text
  match Text.cutString ':' trimmed with
  | some (stage, algorithm) =>
    if Text.isWord stage && Text.isWord algorithm then .ok (stage, algorithm)
    else .error (.badStep trimmed)
  | none => .error (.badStep trimmed)

/-- The steps, in the order in which they run. -/
structure Pipeline where
  steps : List Step

namespace Pipeline

/-- One step with its algorithm found. -/
def step (catalog : Catalog) (text : String) : Except Error Step := do
  let (stage, algorithm) ← parseStep text
  let descriptor ← catalog.resolve algorithm
  return ⟨stage, descriptor⟩

/-- The pipeline that a text spells; the leftmost bad step decides the error. -/
def parse (catalog : Catalog) (text : String) : Except Error Pipeline := do
  return ⟨← (Text.split ',' text).mapM (step catalog)⟩

/-- The steps as text. -/
def display (p : Pipeline) : String :=
  ",".intercalate (p.steps.map fun s => s.stage ++ ":" ++ s.algorithm)

/-- The names of the algorithms, in order. -/
def algorithmNames (p : Pipeline) : List String := p.steps.map Step.algorithm

/-! ## Running -/

/-- A step with its algorithm configured. -/
structure Stage where
  step : Step
  algorithm : Algorithm

/-- A step with the parameters that a set holds for it. -/
def configureStep (params : ParamSet) (s : Step) : Except Error Stage := do
  return ⟨s, ← s.descriptor.build (params.forAlgorithm s.algorithm)⟩

/-- The answer of one stage to the data, under the guard. -/
def Stage.answer (s : Stage) (data : List Document) : Except Error Document :=
  match contain s.step.algorithm (s.algorithm.answer data) with
  | .ok output => .ok output
  | .error cause => .error (.stepFailed s.step.algorithm cause)

/-- The answer of the last stage, each stage running on what the one before hands on. -/
def runStages (data : List Document) : List Stage → Except Error Document
  | [] => .ok .null
  | [last] => last.answer data
  | stage :: rest => do
    let output ← stage.answer data
    runStages output.dataset rest

/-- The last answer, and the label and algorithm of every step that ran. -/
def run (p : Pipeline) (data : List Document) (params : ParamSet) :
    Except Error (Document × List (String × String)) := do
  ensureComparable data
  if p.steps.isEmpty then .error (.usage .emptyPipeline)
  else
    let stages ← p.steps.mapM (configureStep params)
    let output ← runStages data stages
    return (output, p.steps.map fun s => (s.stage, s.algorithm))

/-- The last answer alone. -/
def output (p : Pipeline) (data : List Document) (params : ParamSet) : Except Error Document :=
  (p.run data params).map Prod.fst

/-- The steps of a pipeline and then those of another. -/
def followedBy (p q : Pipeline) : Pipeline := ⟨p.steps ++ q.steps⟩

end Pipeline

/-! ## Timing -/

/-- How long a step took. -/
structure StageTiming where
  stage : String
  algorithm : String
  nanoseconds : Nat

/-- The time in seconds : whole seconds, and the rest as a part of one. -/
def StageTiming.seconds (t : StageTiming) : Float :=
  Float.ofNat (t.nanoseconds / 1000000000) +
    Float.ofNat (t.nanoseconds % 1000000000) / 1000000000.0

/-- The step with its time in seconds and milliseconds. -/
def StageTiming.format (t : StageTiming) : String :=
  t.stage ++ ":" ++ t.algorithm ++ ": " ++ Decimal.fixed 3 t.seconds ++ "s"

end SurfaceDrift
