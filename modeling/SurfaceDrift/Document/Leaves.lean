import SurfaceDrift.Json.Printer

/-!
# Leaves

The leaves of a document are its scalars, in the order in which lists and objects hold
them; names are no leaves. `numbers` reads the numeric leaves and `mapNumbers` writes a
document with other numbers in their places, and the two visit the same leaves. `plainText`
joins all leaves but null into one text.
-/

namespace SurfaceDrift.Document

/-! ## Numbers -/

mutual

/-- The numeric leaves as doubles. Truth values are no numbers. -/
def numbers : Document → List Float
  | .list items => numbersOfItems items
  | .object fields => numbersOfFields fields
  | .number n => [n.toFloat]
  | _ => []

/-- The numeric leaves of documents, one after another. -/
def numbersOfItems : List Document → List Float
  | [] => []
  | d :: rest => numbers d ++ numbersOfItems rest

/-- The numeric leaves of named documents, one after another. -/
def numbersOfFields : List (String × Document) → List Float
  | [] => []
  | (_, d) :: rest => numbers d ++ numbersOfFields rest

end

mutual

/-- The document with `f x` for every numeric leaf `x`; where that is not finite, null. -/
def mapNumbers (f : Float → Float) : Document → Document
  | .list items => .list (mapNumbersOfItems f items)
  | .object fields => .object (mapNumbersOfFields f fields)
  | .number n => ofFloat (f n.toFloat)
  | other => other

/-- The documents with other numbers. -/
def mapNumbersOfItems (f : Float → Float) : List Document → List Document
  | [] => []
  | d :: rest => mapNumbers f d :: mapNumbersOfItems f rest

/-- The named documents with other numbers. -/
def mapNumbersOfFields (f : Float → Float) :
    List (String × Document) → List (String × Document)
  | [] => []
  | (name, d) :: rest => (name, mapNumbers f d) :: mapNumbersOfFields f rest

end

/-- The number that a document is. -/
def float? : Document → Option Float
  | .number n => some n.toFloat
  | _ => none

/-- The numbers of a list of one or more numbers. -/
def vector? : Document → Option (List Float)
  | .list [] => none
  | .list items => items.mapM float?
  | _ => none

/-! ## Text -/

mutual

/-- The words of every leaf. -/
def leafTexts : Document → List String
  | .list items => leafTextsOfItems items
  | .object fields => leafTextsOfFields fields
  | .text s => [s]
  | .number n => [String.ofList (Json.numberText n)]
  | .bool b => [if b then "true" else "false"]
  | .null => []

/-- The words of the leaves of documents, one after another. -/
def leafTextsOfItems : List Document → List String
  | [] => []
  | d :: rest => leafTexts d ++ leafTextsOfItems rest

/-- The words of the leaves of named documents, one after another. -/
def leafTextsOfFields : List (String × Document) → List String
  | [] => []
  | (_, d) :: rest => leafTexts d ++ leafTextsOfFields rest

end

/-- All leaves in one text, a space between two. -/
def plainText (d : Document) : String :=
  " ".intercalate (leafTexts d)

/-! ## The documents that a step hands on -/

/-- The items of a list, and any other document alone. -/
def dataset : Document → List Document
  | .list items => items
  | other => [other]

end SurfaceDrift.Document
