import SurfaceDrift.Decimal.Numeral
import SurfaceDrift.Document
import SurfaceDrift.Text.Reader

/-!
# What a plain word stands for

A word without quotes is null, a truth value or a number if it is spelled like one, and a
text otherwise (`Word.meaning`). The printer of documents quotes the texts that would be
read as something else.

Whole numbers may have a sign and a base (`0x`, `0o`, `0b`). Digits after a leading zero are
no number. A whole number of more than 64 bits but at most 128 has no document; a longer one
is a double.
-/

namespace SurfaceDrift.Yaml

/-- What a word without quotes stands for. -/
inductive Meaning where
  | null
  | bool (value : Bool)
  | integer (n : Int)
  | double (x : Float)
  | text

namespace Word

/-- The spellings of null. -/
def isNull (s : String) : Bool := s ∈ ["null", "Null", "NULL", "~"]

/-- The spellings of the truth values. -/
def bool? (s : String) : Option Bool :=
  if s ∈ ["true", "True", "TRUE"] then some true
  else if s ∈ ["false", "False", "FALSE"] then some false
  else none

/-! ## Whole numbers -/

/-- Digits with a zero before them, after a sign. -/
def isZeroLed (cs : List Char) : Bool :=
  let digits :=
    match cs with
    | '+' :: rest => rest
    | '-' :: rest => rest
    | rest => rest
  match digits with
  | '0' :: c :: rest => (c :: rest).all Char.isDigit
  | _ => false

/-- One or more digits of a base. -/
def digits? (base : Nat) (cs : List Char) : Option Nat :=
  if cs.isEmpty then none else Text.numberOfBase? base cs

/-- Digits after the mark of their base, if there is one; digits of base ten after
none. -/
def based? : List Char → Option Nat
  | '0' :: 'x' :: cs => digits? 16 cs
  | '0' :: 'o' :: cs => digits? 8 cs
  | '0' :: 'b' :: cs => digits? 2 cs
  | cs => digits? 10 cs

/-- The whole number that a word spells, of any length. -/
def wholeNumber? (cs : List Char) : Option Int :=
  if isZeroLed cs then none
  else
    match cs with
    | '+' :: rest => (based? rest).map fun n => (n : Int)
    | '-' :: rest => (based? rest).map fun n => -(n : Int)
    | rest => (based? rest).map fun n => (n : Int)

/-- The least and the greatest whole numbers that are read as such. -/
def isWide (n : Int) : Bool :=
  -(Decimal.twoTo 127 : Int) ≤ n && n < Decimal.twoTo 128

/-! ## Doubles -/

/-- The spellings of an infinity. -/
def isInfinite (cs : List Char) : Bool :=
  String.ofList cs ∈ [".inf", ".Inf", ".INF"]

/-- The spellings of what is no number. -/
def isNotANumber (cs : List Char) : Bool :=
  String.ofList cs ∈ [".nan", ".NaN", ".NAN"]

/-- The double that a word spells. -/
def double? (cs : List Char) : Option Float :=
  if isNotANumber cs then some (0.0 / 0.0)
  else
    let finite (cs : List Char) : Option Float :=
      (Decimal.float? (String.ofList cs)).filter Decimal.isFinite
    match cs with
    | '+' :: '+' :: _ => none
    | '+' :: '-' :: _ => none
    | '+' :: rest => if isInfinite rest then some (1.0 / 0.0) else finite rest
    | '-' :: rest => if isInfinite rest then some (-1.0 / 0.0) else finite cs
    | rest => if isInfinite rest then some (1.0 / 0.0) else finite rest

/-! ## All words -/

/-- What a word stands for. -/
def meaning (s : String) : Meaning :=
  if s.isEmpty || isNull s then .null
  else
    match bool? s with
    | some b => .bool b
    | none =>
      match (wholeNumber? s.toList).filter isWide with
      | some n => .integer n
      | none =>
        if isZeroLed s.toList then .text
        else
          match double? s.toList with
          | some x => .double x
          | none => .text

end Word

/-- The document of a whole number, if it has one. -/
def integerDocument? (n : Int) : Option Document :=
  if Decimal.minInt64 ≤ n && n ≤ Decimal.maxUInt64 then some (.ofInt n) else none

/-- The document that a word stands for, if it has one. -/
def Word.document? (s : String) : Option Document :=
  match meaning s with
  | .null => some .null
  | .bool b => some (.bool b)
  | .integer n => integerDocument? n
  | .double x => some (.ofFloat x)
  | .text => some (.text s)

end SurfaceDrift.Yaml
