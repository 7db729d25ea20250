import SurfaceDrift.Pipeline

/-!
# Comparisons

A comparison runs several algorithms on the same data, each on its own. Unknown names and
bad parameters end it before anything runs; an algorithm that fails on the data has its
failure recorded and does not touch the others (`Outcome`).

An outcome is written as the algorithm's answer or as an object with the failure's text
under the name `error`, and read back by that shape (`Outcome.ofDocument`).
-/

namespace SurfaceDrift

/-- How one algorithm of a comparison ends. -/
inductive Outcome where
  | failed (error : String)
  | success (output : Document)

namespace Outcome

/-- The outcome that a document stands for. -/
def ofDocument : Document → Outcome
  | .object [(key, .text error)] =>
    if key = "error" then failed error else success (.object [(key, .text error)])
  | other => success other

/-- An outcome as a document. -/
def toDocument : Outcome → Document
  | failed error => .object [("error", .text error)]
  | success output => output

/-- Whether the algorithm answered. -/
def isSuccess : Outcome → Bool
  | success _ => true
  | failed _ => false

/-- The algorithm's answer. -/
def output? : Outcome → Option Document
  | success output => some output
  | failed _ => none

/-- The text of the failure. -/
def error? : Outcome → Option String
  | failed error => some error
  | success _ => none

end Outcome

/-- The outcomes by algorithm. -/
abbrev Results := Fields Outcome

namespace Comparison

/-- The algorithms to run : those requested, or all of the catalog. -/
def requestedNames (catalog : Catalog) (requested : Option (List String)) :
    Except Error (List String) :=
  match requested with
  | none => .ok catalog.names
  | some [] => .error (.usage .noAlgorithms)
  | some names => .ok names

/-- An algorithm to run, with the name that its outcome goes under. -/
structure Task where
  name : String
  algorithm : Algorithm

/-- An algorithm found by its name and configured, under the name it is found by. -/
def configure (catalog : Catalog) (params : ParamSet) (name : String) : Except Error Task := do
  let descriptor ← catalog.resolve name
  let algorithm ← descriptor.build (params.forAlgorithm descriptor.name)
  return ⟨descriptor.name, algorithm⟩

/-- The tasks of a comparison, one for each request. -/
def prepare (catalog : Catalog) (data : List Document) (requested : Option (List String))
    (params : ParamSet) : Except Error (List Task) := do
  ensureComparable data
  let names ← requestedNames catalog requested
  names.mapM (configure catalog params)

/-- The outcome of one algorithm on the data, under the guard. -/
def Task.outcome (t : Task) (data : List Document) : Outcome :=
  match contain t.name (t.algorithm.answer data) with
  | .ok output => .success output
  | .error cause => .failed cause.message

/-- Runs every requested algorithm on the data. -/
def run (catalog : Catalog) (data : List Document) (requested : Option (List String))
    (params : ParamSet) : Except Error Results := do
  let tasks ← prepare catalog data requested params
  return Fields.ofList (tasks.map fun t => (t.name, t.outcome data))

end Comparison

/-- The outcomes as a document. -/
def Results.toDocument (results : Results) : Document :=
  .object (Fields.mapValues Outcome.toDocument results)

/-- The outcomes that an object stands for, one under each of its names. -/
def Results.ofDocument? : Document → Option Results
  | .object fields => some (Fields.mapValues Outcome.ofDocument fields)
  | _ => none

end SurfaceDrift
