import SurfaceDrift.Error

/-!
# Algorithms

An algorithm learns from data and then turns data into a document. `Learner` is an
algorithm whose parameters are chosen, with the type of what it learns. An instance of it
holds what it learned, or nothing yet : fitting changes that in place, and transforming only
reads it. `Learner.step` makes one of three calls on an instance, and `Learner.run` a
sequence of them. `Algorithm` keeps no instance, but the answer of a fresh one to data.

An algorithm that is not part of the library may also panic, which is no error yet
(`Failure`) : only the guard turns it into one.
-/

namespace SurfaceDrift

/-- What a panic leaves behind : a text, or nothing that can be read. -/
inductive Panic where
  | text (payload : String)
  | other
deriving DecidableEq, Repr

/-- The words of a panic. -/
def Panic.message : Panic → String
  | text payload => payload
  | other => "unknown panic"

/-- An answer that does not come. -/
inductive Failure where
  | error (cause : Error)
  | panic (payload : Panic)

/-- An algorithm that learns values of one type. -/
structure Learner (Fitted : Type) where
  name : String
  /-- Learns from data : how it ends, and what the instance holds then. -/
  fit : List Document → Option Fitted → Except Failure Unit × Option Fitted
  /-- The answer to data, by what the instance holds. -/
  transform : Option Fitted → List Document → Except Failure Document

/-- An algorithm as it is run on data : learn from it, then transform it. -/
structure Algorithm where
  name : String
  answer : List Document → Except Failure Document

namespace Learner

variable {Fitted : Type}

/-- What is learned is held in place of what was; where nothing is, that stays. -/
def remember (learned : Except Failure Fitted) (state : Option Fitted) :
    Except Failure Unit × Option Fitted :=
  match learned with
  | .ok fitted => (.ok (), some fitted)
  | .error failure => (.error failure, state)

/-- Learn from the data, and transform it unless that fails. -/
def fitThenTransform (l : Learner Fitted) (state : Option Fitted) (data : List Document) :
    Except Failure Document × Option Fitted :=
  match l.fit data state with
  | (.ok (), after) => (l.transform after data, after)
  | (.error failure, after) => (.error failure, after)

/-- The answer of a fresh instance that learns from the data it transforms. -/
def fitTransform (l : Learner Fitted) (data : List Document) : Except Failure Document :=
  (l.fitThenTransform none data).1

/-- The learner without what it learns. -/
def algorithm (l : Learner Fitted) : Algorithm := ⟨l.name, l.fitTransform⟩

/-! ## Calls on one instance -/

/-- A call on an instance. -/
inductive Call where
  | fit (data : List Document)
  | transform (data : List Document)
  | fitTransform (data : List Document)

/-- What a call answers, nothing for a fit, and what the instance holds after it. -/
def step (l : Learner Fitted) (state : Option Fitted) :
    Call → Except Failure (Option Document) × Option Fitted
  | .fit data =>
    let (result, after) := l.fit data state
    (result.map fun _ => none, after)
  | .transform data => ((l.transform state data).map some, state)
  | .fitTransform data =>
    let (result, after) := l.fitThenTransform state data
    (result.map some, after)

/-- The answers to a sequence of calls, each with what the instance holds after it. -/
def run (l : Learner Fitted) (state : Option Fitted) :
    List Call → List (Except Failure (Option Document) × Option Fitted)
  | [] => []
  | call :: rest =>
    let result := l.step state call
    result :: l.run result.2 rest

end Learner

end SurfaceDrift
