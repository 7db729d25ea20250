import SurfaceDrift.Decimal.Notation
import SurfaceDrift.Document

/-!
# Writing JSON

`Json.write` has two layouts : `compact` on one line and `indented`, which gives every item
and every field a line of its own, four spaces further in than its container. An empty
container is `[]` or `{}` in both. Of the characters in a text, the quote, the backslash and
those below the space are escaped, with the short escapes where there are any.
-/

namespace SurfaceDrift.Json

/-- Where a document is broken into lines. -/
inductive Layout where
  | compact
  | indented
deriving DecidableEq

/-- What stands before an item `depth` containers deep. -/
def Layout.break : Layout → Nat → List Char
  | .compact, _ => []
  | .indented, depth => '\n' :: List.replicate (4 * depth) ' '

/-- What stands between a name and its value. -/
def Layout.colon : Layout → List Char
  | .compact => [':']
  | .indented => [':', ' ']

/-! ## Texts -/

/-- A digit of base sixteen. -/
def hexDigit (n : Nat) : Char := (Nat.digitChar n)

/-- A character inside quotes. -/
def escape (c : Char) : List Char :=
  if c = '"' then ['\\', '"']
  else if c = '\\' then ['\\', '\\']
  else if c = '\n' then ['\\', 'n']
  else if c = '\t' then ['\\', 't']
  else if c = '\r' then ['\\', 'r']
  else if c = '\x08' then ['\\', 'b']
  else if c = '\x0c' then ['\\', 'f']
  else if c.toNat < 32 then
    ['\\', 'u', '0', '0', hexDigit (c.toNat / 16), hexDigit (c.toNat % 16)]
  else [c]

/-- A text inside quotes. -/
def quote (s : String) : List Char :=
  '"' :: (s.toList.flatMap escape ++ ['"'])

/-! ## Numbers -/

/-- A whole number in decimal digits. -/
def integerText (n : Int) : List Char :=
  if n < 0 then '-' :: Decimal.digitsOf n.natAbs else Decimal.digitsOf n.natAbs

/-- A number, a double with a decimal or an exponent. -/
def numberText : Number → List Char
  | .integer n => integerText n
  | .double x => (Decimal.document.write x).toList

/-! ## Documents -/

mutual

/-- A document that stands `depth` containers deep. -/
def write (layout : Layout) (depth : Nat) : Document → List Char
  | .null => "null".toList
  | .bool true => "true".toList
  | .bool false => "false".toList
  | .number n => numberText n
  | .text s => quote s
  | .list [] => ['[', ']']
  | .list (d :: rest) =>
    '[' :: (layout.break (depth + 1) ++ write layout (depth + 1) d ++
      writeItems layout depth rest)
  | .object [] => ['{', '}']
  | .object ((name, d) :: rest) =>
    '{' :: (layout.break (depth + 1) ++ quote name ++ layout.colon ++
      write layout (depth + 1) d ++ writeFields layout depth rest)

/-- The items after the first one, and the end of the list. -/
def writeItems (layout : Layout) (depth : Nat) : List Document → List Char
  | [] => layout.break depth ++ [']']
  | d :: rest =>
    ',' :: (layout.break (depth + 1) ++ write layout (depth + 1) d ++
      writeItems layout depth rest)

/-- The fields after the first one, and the end of the object. -/
def writeFields (layout : Layout) (depth : Nat) : List (String × Document) → List Char
  | [] => layout.break depth ++ ['}']
  | (name, d) :: rest =>
    ',' :: (layout.break (depth + 1) ++ quote name ++ layout.colon ++
      write layout (depth + 1) d ++ writeFields layout depth rest)

end

/-- A document on one line. -/
def oneLine (d : Document) : String :=
  String.ofList (write .compact 0 d)

/-- A document as a file : indented, and a line break at the end. -/
def file (d : Document) : String :=
  String.ofList (write .indented 0 d ++ ['\n'])

end SurfaceDrift.Json
