import SurfaceDrift.Decimal.Double
import SurfaceDrift.Fields

/-!
# Documents

A document is what the comparison reads, passes on and writes : null, a truth value, a
number, a text, a list of documents, or an object of named documents in the order of their
names (`Document.Ordered`). A number is a whole number of at most 64 bits or a double, and
the two stay apart : `1` is not `1.0`. A double in a document is finite; `ofFloat` puts
null for one that is not.
-/

namespace SurfaceDrift

/-- A whole number, or a finite double. -/
inductive Number where
  | integer (n : Int)
  | double (x : Float)

/-- The double next to a number. -/
def Number.toFloat : Number → Float
  | .integer n => Decimal.ofInteger n
  | .double x => x

/-- A tree of lists and named fields over scalars. -/
inductive Document where
  | null
  | bool (value : Bool)
  | number (value : Number)
  | text (value : String)
  | list (items : List Document)
  | object (fields : List (String × Document))

instance : Inhabited Document := ⟨.null⟩

namespace Document

/-- A whole number as a document. -/
def ofInt (n : Int) : Document := .number (.integer n)

/-- A count as a document. -/
def ofNat (n : Nat) : Document := ofInt n

/-- A double as a document, which has no number for an infinity. -/
def ofFloat (x : Float) : Document :=
  if Decimal.isFinite x then .number (.double x) else .null

/-- Entries as an object; the later of two entries of one name stays. -/
def ofFields (entries : List (String × Document)) : Document :=
  .object (Fields.ofList entries)

/-- The document under a name of an object. -/
def get? (d : Document) (name : String) : Option Document :=
  match d with
  | .object fields => Fields.find? fields name
  | _ => none

mutual

/-- Every object inside lists its names in ascending order. -/
def Ordered : Document → Prop
  | .list items => OrderedItems items
  | .object fields => Fields.Ascending fields ∧ OrderedFields fields
  | _ => True

/-- Every one of the documents is ordered. -/
def OrderedItems : List Document → Prop
  | [] => True
  | d :: rest => Ordered d ∧ OrderedItems rest

/-- Every one of the named documents is ordered. -/
def OrderedFields : List (String × Document) → Prop
  | [] => True
  | (_, d) :: rest => Ordered d ∧ OrderedFields rest

end

end Document

end SurfaceDrift
