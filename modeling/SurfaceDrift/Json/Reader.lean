import SurfaceDrift.Decimal.Numeral
import SurfaceDrift.Document
import SurfaceDrift.Text.Reader

/-!
# Reading JSON

`Json.read?` takes a whole text or nothing. Containers nest fewer than `maxDepth` deep. A
number without a point and an exponent that 64 bits hold is a whole number, and every other
number is the double next to it, `-0` among them; a number too great for a double is
refused. A text holds no bare control character, and its escapes name whole characters, so
that a surrogate is read only as one half of a pair. Of two fields of one name the later
stays.

The reader of values goes down in the depth that is left, and the readers of items and fields
take the reader of what they hold as an argument.
-/

namespace SurfaceDrift.Json

open Text (Reader hexNumber?)

/-- The blanks of JSON. -/
def isBlank (c : Char) : Bool := c == ' ' || c == '\n' || c == '\t' || c == '\r'

/-- The text from its first character that is no blank. -/
def skipBlanks (cs : List Char) : List Char := cs.dropWhile isBlank

/-! ## Texts -/

/-- The character of a short escape. -/
def shortEscape? : Char → Option Char
  | '"' => some '"'
  | '\\' => some '\\'
  | '/' => some '/'
  | 'b' => some '\x08'
  | 'f' => some '\x0c'
  | 'n' => some '\n'
  | 'r' => some '\r'
  | 't' => some '\t'
  | _ => none

/-- Whether a code unit is the first half of a pair. -/
def isLeading (n : Nat) : Bool := 0xD800 ≤ n && n < 0xDC00

/-- Whether a code unit is the second half of a pair. -/
def isTrailing (n : Nat) : Bool := 0xDC00 ≤ n && n < 0xE000

/-- The characters up to the closing quote. -/
def readChars : Reader (List Char)
  | [] => none
  | '"' :: cs => some ([], cs)
  | '\\' :: 'u' :: a :: b :: c :: d :: cs => do
    let unit ← hexNumber? [a, b, c, d]
    if isLeading unit then
      match cs with
      | '\\' :: 'u' :: e :: f :: g :: h :: more =>
        let second ← hexNumber? [e, f, g, h]
        if isTrailing second then
          let point := 0x10000 + (unit - 0xD800) * 0x400 + (second - 0xDC00)
          (readChars more).map fun p => (Char.ofNat point :: p.1, p.2)
        else none
      | _ => none
    else if isTrailing unit then none
    else (readChars cs).map fun p => (Char.ofNat unit :: p.1, p.2)
  | '\\' :: c :: cs => do
    let plain ← shortEscape? c
    (readChars cs).map fun p => (plain :: p.1, p.2)
  | c :: cs =>
    if c.toNat < 32 then none else (readChars cs).map fun p => (c :: p.1, p.2)

/-- A text in quotes. -/
def readText : Reader String
  | '"' :: cs => (readChars cs).map fun p => (String.ofList p.1, p.2)
  | _ => none

/-! ## Numbers -/

/-- A whole number as a number of a document. -/
def wholeNumber? (negative : Bool) (n : Nat) : Option Number :=
  let value : Int := if negative then -(n : Int) else n
  if negative && n == 0 then some (.double (Decimal.ofDecimal true 0 0))
  else if Decimal.minInt64 ≤ value && value ≤ Decimal.maxUInt64 then some (.integer value)
  else finite? (Decimal.ofDecimal negative n 0)
where
  /-- A double that is a number. -/
  finite? (x : Float) : Option Number :=
    if Decimal.isFinite x then some (.double x) else none

/-- The digits before the point : one zero, or digits that begin with another. -/
def readWhole : Reader (List Char)
  | '0' :: cs =>
    match cs with
    | c :: _ => if c.isDigit then none else some (['0'], cs)
    | [] => some (['0'], [])
  | cs =>
    let (digits, rest) := Decimal.spanDigits cs
    if digits.isEmpty then none else some (digits, rest)

/-- A point with the digits after it, if there is one. -/
def readFraction : Reader (Option (List Char))
  | '.' :: cs =>
    let (digits, rest) := Decimal.spanDigits cs
    if digits.isEmpty then none else some (some digits, rest)
  | cs => some (none, cs)

/-- An exponent, if there is one. -/
def readExponent : Reader (Option Int)
  | [] => some (none, [])
  | c :: cs =>
    if c = 'e' || c = 'E' then
      let (negative, digits) := Decimal.takeSign cs
      let (digits, rest) := Decimal.spanDigits digits
      if digits.isEmpty then none
      else some (some (if negative then -(Decimal.value digits : Int) else Decimal.value digits),
        rest)
    else some (none, c :: cs)

/-- A number. -/
def readNumber (cs : List Char) : Option (Number × List Char) := do
  let (negative, cs) :=
    match cs with
    | '-' :: cs => (true, cs)
    | cs => (false, cs)
  let (whole, cs) ← readWhole cs
  let (fraction, cs) ← readFraction cs
  let (exponent, cs) ← readExponent cs
  let number ←
    match fraction, exponent with
    | none, none => wholeNumber? negative (Decimal.value whole)
    | fraction, exponent =>
      let places := fraction.getD []
      wholeNumber?.finite? <| Decimal.ofDecimal negative (Decimal.value (whole ++ places))
        (exponent.getD 0 - places.length)
  return (number, cs)

/-! ## Documents -/

/-- The items after one item, up to the end of the list. -/
def readItems (item : Reader Document) : Nat → Reader (List Document)
  | 0, _ => none
  | fuel + 1, cs =>
    match skipBlanks cs with
    | ']' :: rest => some ([], rest)
    | ',' :: rest => do
      let (d, rest) ← item (skipBlanks rest)
      let (ds, rest) ← readItems item fuel rest
      return (d :: ds, rest)
    | _ => none

/-- The items of a list after its bracket. -/
def readList (item : Reader Document) (cs : List Char) : Option (List Document × List Char) :=
  match skipBlanks cs with
  | ']' :: rest => some ([], rest)
  | cs => do
    let (d, rest) ← item cs
    let (ds, rest) ← readItems item (rest.length + 1) rest
    return (d :: ds, rest)

/-- A name, a colon and a value. -/
def readField (item : Reader Document) (cs : List Char) :
    Option ((String × Document) × List Char) := do
  let (name, rest) ← readText cs
  match skipBlanks rest with
  | ':' :: rest =>
    let (d, rest) ← item (skipBlanks rest)
    return ((name, d), rest)
  | _ => none

/-- The fields after one field, up to the end of the object. -/
def readFields (item : Reader Document) : Nat → Reader (List (String × Document))
  | 0, _ => none
  | fuel + 1, cs =>
    match skipBlanks cs with
    | '}' :: rest => some ([], rest)
    | ',' :: rest => do
      let (field, rest) ← readField item (skipBlanks rest)
      let (fields, rest) ← readFields item fuel rest
      return (field :: fields, rest)
    | _ => none

/-- The fields of an object after its brace. -/
def readObject (item : Reader Document) (cs : List Char) :
    Option (List (String × Document) × List Char) :=
  match skipBlanks cs with
  | '}' :: rest => some ([], rest)
  | cs => do
    let (field, rest) ← readField item cs
    let (fields, rest) ← readFields item (rest.length + 1) rest
    return (field :: fields, rest)

/-- A value in which containers nest at most `depth` deep. -/
def readValue (depth : Nat) (cs : List Char) : Option (Document × List Char) :=
  match cs with
  | 'n' :: 'u' :: 'l' :: 'l' :: rest => some (.null, rest)
  | 't' :: 'r' :: 'u' :: 'e' :: rest => some (.bool true, rest)
  | 'f' :: 'a' :: 'l' :: 's' :: 'e' :: rest => some (.bool false, rest)
  | '"' :: _ => (readText cs).map fun p => (.text p.1, p.2)
  | '[' :: rest =>
    match depth with
    | 0 => none
    | depth + 1 => (readList (readValue depth) rest).map fun p => (.list p.1, p.2)
  | '{' :: rest =>
    match depth with
    | 0 => none
    | depth + 1 =>
      (readObject (readValue depth) rest).map fun p => (Document.ofFields p.1, p.2)
  | _ => (readNumber cs).map fun p => (.number p.1, p.2)

/-- Containers nest fewer than this deep. -/
def maxDepth : Nat := 128

/-- The document that a text is. -/
def read? (s : String) : Option Document := do
  let (d, rest) ← readValue (maxDepth - 1) (skipBlanks s.toList)
  if (skipBlanks rest).isEmpty then some d else none

end SurfaceDrift.Json
