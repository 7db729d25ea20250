import SurfaceDrift.Document
import SurfaceDrift.Error
import SurfaceDrift.Text.Blank
import SurfaceDrift.Text.Casing

/-!
# Canonical names and texts

Names that differ only in letter case, in underscores or in blanks are the same name to a
reader. `canonicalName` is what they have in common, and `canonicalProse` does the same for
prose, where underscores count. `canonical` puts every name and every text of a document
into this form. Two names of one object may then fall together : the value of the one that
comes last stays, or the document is refused (`CollisionPolicy`).
-/

namespace SurfaceDrift

/-- What to do when two names of one object become the same. -/
inductive CollisionPolicy where
  | lastWriteWins
  | reject
deriving DecidableEq, Repr

namespace CollisionPolicy

/-- How a policy is spelled. -/
def label : CollisionPolicy → String
  | lastWriteWins => "last_write_wins"
  | reject => "reject"

/-- The policy of a spelling, in any letter case and with hyphens for underscores. -/
def ofText? (s : String) : Option CollisionPolicy :=
  match String.ofList ((Text.lower s).toList.map fun c => if c = '-' then '_' else c) with
  | "last_write_wins" => some lastWriteWins
  | "last" => some lastWriteWins
  | "reject" => some reject
  | _ => none

end CollisionPolicy

/-! ## Texts -/

/-- Lowercase without underscores, one space between words. -/
def canonicalName (s : String) : String :=
  String.ofList (Text.squeeze ((Text.lower s).toList.filter (· != '_')))

/-- Lowercase on one line, one space between words : first the line breaks with the blanks
around them become spaces, then the other runs of blanks. -/
def canonicalProse (s : String) : String :=
  String.ofList (Text.squeeze (Text.foldBreaks (Text.lower s).toList))

/-- A text becomes canonical, any other scalar stays. -/
def canonicalScalar : Document → Document
  | .text s => .text (canonicalName s)
  | other => other

/-! ## Documents -/

mutual

/-- The document with canonical names and texts; of the names that fall together, the last
one keeps its value. -/
def canonical : Document → Document
  | .list items => .list (canonicalItems items)
  | .object fields => .object (Fields.ofList (canonicalFields fields))
  | scalar => canonicalScalar scalar

/-- The canonical documents. -/
def canonicalItems : List Document → List Document
  | [] => []
  | d :: rest => canonical d :: canonicalItems rest

/-- The canonical documents under canonical names, all of them. -/
def canonicalFields : List (String × Document) → List (String × Document)
  | [] => []
  | (name, d) :: rest => (canonicalName name, canonical d) :: canonicalFields rest

end

/-- The first of the names seen that has this canonical form. -/
def collidesWith (common : String) : List (String × String) → Option String
  | [] => none
  | (form, name) :: rest => if form = common then some name else collidesWith common rest

mutual

/-- The document with canonical names and texts, unless names fall together. -/
def canonicalDistinct : Document → Except Error Document
  | .list items => do return .list (← canonicalDistinctItems items)
  | .object fields => do
    return .object (Fields.ofList (← canonicalDistinctFields [] fields))
  | scalar => .ok (canonicalScalar scalar)

/-- The canonical documents, up to the first one that is refused. -/
def canonicalDistinctItems : List Document → Except Error (List Document)
  | [] => .ok []
  | d :: rest => do
    let first ← canonicalDistinct d
    let others ← canonicalDistinctItems rest
    return first :: others

/-- The canonical documents under canonical names, of which none is among those `seen`. -/
def canonicalDistinctFields (seen : List (String × String)) :
    List (String × Document) → Except Error (List (String × Document))
  | [] => .ok []
  | (name, d) :: rest =>
    let common := canonicalName name
    match collidesWith common seen with
    | some first => .error (.data (.keyCollision first name common))
    | none => do
      let value ← canonicalDistinct d
      let others ← canonicalDistinctFields ((common, name) :: seen) rest
      return (common, value) :: others

end

/-- The canonical document under a policy. -/
def canonicalWith (policy : CollisionPolicy) (d : Document) : Except Error Document :=
  match policy with
  | .lastWriteWins => .ok (canonical d)
  | .reject => canonicalDistinct d

end SurfaceDrift
