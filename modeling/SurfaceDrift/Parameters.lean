import SurfaceDrift.Json.Reader
import SurfaceDrift.Options

/-!
# Parameters of all algorithms

`ParamSet` holds the parameters of every algorithm under the algorithm's name. Names are
looked up and set in lowercase. An assignment such as `dbscan.eps=0.3` sets one parameter;
its value is the JSON document that the text is, or else the text itself.
-/

namespace SurfaceDrift

/-- The parameters of every algorithm, by the algorithm's name. -/
abbrev ParamSet := Fields Params

namespace ParamSet

/-- The parameters of an algorithm. -/
def forAlgorithm (set : ParamSet) (algorithm : String) : Params :=
  (Fields.find? set (Text.lower algorithm)).getD []

/-- Sets one parameter of an algorithm. -/
def put (set : ParamSet) (algorithm key : String) (value : Document) : ParamSet :=
  let params := Fields.insert (set.forAlgorithm algorithm) key value
  Fields.insert set (Text.lower algorithm) params

/-- Sets all parameters of another set, one by one. -/
def merge (set other : ParamSet) : ParamSet :=
  other.foldl
    (fun set entry => entry.2.foldl (fun set param => put set entry.1 param.1 param.2) set)
    set

/-- The same parameters under lowercase names. Where two names become the same and both
have a key, the value under the later name stays. -/
def caseFolded (set : ParamSet) : ParamSet := merge [] set

/-- The names of the algorithms. -/
def algorithms (set : ParamSet) : List String := Fields.names set

/-- A set as a document. -/
def toDocument (set : ParamSet) : Document :=
  .object (Fields.mapValues Document.object set)

/-- The set that a document is : an object of objects. -/
def ofDocument? : Document → Option ParamSet
  | .object fields =>
    fields.mapM fun entry =>
      match entry.2 with
      | .object params => some (entry.1, params)
      | _ => none
  | _ => none

end ParamSet

/-! ## Assignments -/

/-- One parameter with its value. -/
structure Assignment where
  algorithm : String
  key : String
  value : Document

/-- The document that a text spells, or the text itself. -/
def valueOfText (s : String) : Document :=
  (Json.read? s).getD (.text s)

/-- Reads `algorithm.key=value`. -/
def Assignment.parse (s : String) : Except Error Assignment :=
  match Text.cutString '=' s with
  | none => .error (.configuration (.malformedAssignment s))
  | some (path, raw) =>
    let name := Text.trim path
    match Text.cutString '.' name with
    | some (algorithm, key) =>
      if algorithm.isEmpty || key.isEmpty then
        .error (.configuration (.malformedParameterName name))
      else .ok ⟨algorithm, key, valueOfText (Text.trim raw)⟩
    | none => .error (.configuration (.malformedParameterName name))

/-- Sets the parameter that an assignment names. -/
def ParamSet.assign (set : ParamSet) (s : String) : Except Error ParamSet := do
  let a ← Assignment.parse s
  return set.put a.algorithm a.key a.value

/-- Sets the parameters that assignments name, in order. -/
def ParamSet.assignAll (set : ParamSet) : List String → Except Error ParamSet
  | [] => .ok set
  | s :: rest => do (← set.assign s).assignAll rest

end SurfaceDrift
