import SurfaceDrift.Decimal.Numeral
import SurfaceDrift.Document

/-!
# Values of TOML

TOML knows more than documents do : whole numbers of up to 128 bits, infinities, and dates
and times (`Value`). `Value.toDocument?` is the document that a value is, if it has one. A
number beyond every range may be written where nobody reads it; `Value.isReadable` says that
a value holds none.
-/

namespace SurfaceDrift.Toml

/-- A value as TOML writes it. -/
inductive Value where
  | bool (b : Bool)
  | integer (n : Int)
  | float (x : Float)
  /-- A number that neither 128 bits nor a double can hold. -/
  | beyond
  | text (s : String)
  /-- A date or a time, in its written form. -/
  | moment (written : String)
  | list (items : List Value)
  | table (entries : List (String × Value))

instance : Inhabited Value := ⟨.beyond⟩

/-- The name under which a document holds a date or a time. -/
def momentKey : String := "$__toml_private_datetime"

namespace Value

/-- A whole number, if a signed or an unsigned word of 128 bits holds it. -/
def ofInt (n : Int) : Value :=
  if -(Decimal.twoTo 127 : Int) ≤ n && n < Decimal.twoTo 128 then .integer n else .beyond

/-- The double next to a number in digits, if it has one. -/
def ofFloat (x : Float) : Value := if Decimal.isFinite x then .float x else .beyond

/-- The value as a table. A date or a time stands for a table of one text. -/
def entries? : Value → Option (List (String × Value))
  | .table entries => some entries
  | .moment written => some [(momentKey, .text written)]
  | _ => none

mutual

/-- Whether no number in a value is beyond every range. -/
def isReadable : Value → Bool
  | .beyond => false
  | .list items => areReadable items
  | .table entries => haveReadable entries
  | _ => true

/-- Whether no number in the values is beyond every range. -/
def areReadable : List Value → Bool
  | [] => true
  | v :: rest => v.isReadable && areReadable rest

/-- Whether no number in the named values is beyond every range. -/
def haveReadable : List (String × Value) → Bool
  | [] => true
  | (_, v) :: rest => v.isReadable && haveReadable rest

end

mutual

/-- The document that a value is. A whole number must be one of a document, with 64 bits. -/
def toDocument? : Value → Option Document
  | .bool b => some (.bool b)
  | .integer n =>
    if Decimal.minInt64 ≤ n && n ≤ Decimal.maxUInt64 then some (.ofInt n) else none
  | .float x => some (.ofFloat x)
  | .beyond => none
  | .text s => some (.text s)
  | .moment written => some (.object [(momentKey, .text written)])
  | .list items => (toDocuments? items).map .list
  | .table entries => (toFields? entries).map Document.ofFields

/-- The documents that values are. -/
def toDocuments? : List Value → Option (List Document)
  | [] => some []
  | v :: rest => do return (← v.toDocument?) :: (← toDocuments? rest)

/-- The documents that named values are. -/
def toFields? : List (String × Value) → Option (List (String × Document))
  | [] => some []
  | (name, v) :: rest => do return (name, ← v.toDocument?) :: (← toFields? rest)

end

end Value

end SurfaceDrift.Toml
