import SurfaceDrift.Yaml.Lexer
import SurfaceDrift.Yaml.Node
import SurfaceDrift.Yaml.Scalar

/-!
# Reading YAML

`Yaml.read?` takes the document from the nodes of a text. Keys are scalars, and their text
counts, whatever it would stand for as a value; of two entries of one key the later one
stays. A node has the data of its tag or, without one, of its spelling. Tags of the writer's
own are refused, and so is a text that is too deep or that repeats too much by aliases.
-/

namespace SurfaceDrift.Yaml

/-! ## Anchors -/

namespace Node

/-- A node under the number of its anchor, if it has one. -/
def underAnchor (p : Properties) (n : Node) : List (Nat × Node) :=
  p.anchor.toList.map fun number => (number, n)

mutual

/-- The nodes with anchors, in the order in which they begin. -/
def anchored : Node → List (Nat × Node)
  | .alias _ => []
  | .scalar p plain text => underAnchor p (.scalar p plain text)
  | .sequence p items => underAnchor p (.sequence p items) ++ anchoredItems items
  | .mapping p entries => underAnchor p (.mapping p entries) ++ anchoredEntries entries

/-- The nodes with anchors among some. -/
def anchoredItems : List Node → List (Nat × Node)
  | [] => []
  | n :: rest => anchored n ++ anchoredItems rest

/-- The nodes with anchors among keys and values. -/
def anchoredEntries : List (Node × Node) → List (Nat × Node)
  | [] => []
  | (key, value) :: rest => anchored key ++ anchored value ++ anchoredEntries rest

end

mutual

/-- How many scalars and aliases a node holds, and twice the containers. -/
def weight : Node → Nat
  | .alias _ => 1
  | .scalar _ _ _ => 1
  | .sequence _ items => 2 + weightItems items
  | .mapping _ entries => 2 + weightEntries entries

/-- The weight of some nodes. -/
def weightItems : List Node → Nat
  | [] => 0
  | n :: rest => weight n + weightItems rest

/-- The weight of keys and values. -/
def weightEntries : List (Node × Node) → Nat
  | [] => 0
  | (key, value) :: rest => weight key + weight value + weightEntries rest

end

end Node

/-! ## Data -/

/-- A reader of data that may follow only so many aliases more. -/
abbrev Follow := StateT Nat Option

/-- The node that an alias stands for, or a node itself. -/
def follow (anchors : List (Nat × Node)) : Node → Follow Node
  | .alias number => do
    match ← get with
    | 0 => failure
    | left + 1 =>
      set left
      match (anchors.reverse.lookup number) with
      | some n => return n
      | none => failure
  | n => return n

/-- Whether a tag is one of the writer's own. -/
def isOwnTag (tag : Option String) : Bool := tag.any (·.startsWith "!")

/-- The tag of a kind of scalar. -/
def scalarTag (kind : String) : String := "tag:yaml.org,2002:" ++ kind

/-- The data of a scalar. -/
def scalarDocument? (tag : Option String) (plain : Bool) (text : String) : Option Document :=
  match tag with
  | none => if plain then Word.document? text else some (.text text)
  | some tag =>
    if tag = scalarTag "bool" then (Word.bool? text).map .bool
    else if tag = scalarTag "int" then
      ((Word.wholeNumber? text.toList).filter Word.isWide).bind integerDocument?
    else if tag = scalarTag "float" then (Word.double? text.toList).map .ofFloat
    else if tag = scalarTag "null" then if Word.isNull text then some .null else none
    else if isOwnTag tag then none
    else some (.text text)

/-- The text of a key. -/
def keyText? : Node → Option String
  | .scalar _ _ text => some text
  | _ => none

/-- The data of a node that is no alias, with at most `depth` containers inside each
other. -/
def documentOf (anchors : List (Nat × Node)) : Nat → Node → Follow Document
  | _, .alias _ => failure
  | _, .scalar p plain text => (scalarDocument? p.tag plain text : Option Document)
  | 0, _ => failure
  | depth + 1, .sequence p items => do
    if isOwnTag p.tag then failure
    return .list (← items.mapM fun item => do documentOf anchors depth (← follow anchors item))
  | depth + 1, .mapping p entries => do
    if isOwnTag p.tag then failure
    let fields ← entries.mapM fun entry => do
      let key ← (keyText? (← follow anchors entry.1) : Option String)
      return (key, ← documentOf anchors depth (← follow anchors entry.2))
    return .ofFields fields

/-- Containers nest at most this deep. -/
def maxDepth : Nat := 128

/-- For every scalar, alias and end of a container, so many aliases may be followed. -/
def aliasesPerEvent : Nat := 100

/-- The document that a text is; a text without one is null. -/
def read? (s : String) : Option Document := do
  match ← Node.ofTokens? (← tokens? s) with
  | none => some .null
  | some n =>
    let (d, _) ← (documentOf n.anchored maxDepth n).run (aliasesPerEvent * n.weight)
    return d

end SurfaceDrift.Yaml
