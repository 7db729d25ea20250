import SurfaceDrift.Json.Printer

/-!
# Writing TOML

`Toml.write?` writes an object as tables. What a table holds itself comes before the tables
inside it, and a table has a header unless it holds nothing but other tables. An array of
tables becomes one header for each of them; all other arrays are values, with two or more
items on a line each. TOML has no null, so that a document with a null anywhere cannot be
written.
-/

namespace SurfaceDrift.Toml

/-! ## Texts and keys -/

/-- Characters of a text that decide how it can be quoted. -/
structure Contents where
  hasBreak : Bool
  hasControl : Bool
  hasBackslash : Bool
  mostQuotes : Nat
  mostApostrophes : Nat

/-- The length of the longest run of a character, where `run` of them were read last. -/
def longestRun (c : Char) (run : Nat) : List Char → Nat
  | [] => run
  | d :: cs => if d = c then longestRun c (run + 1) cs else max run (longestRun c 0 cs)

/-- What a text contains. -/
def Contents.of (cs : List Char) : Contents where
  hasBreak := cs.contains '\n'
  hasControl := cs.any fun c => (c.toNat < 32 && c != '\t' && c != '\n') || c.toNat == 127
  hasBackslash := cs.contains '\\'
  mostQuotes := longestRun '"' 0 cs
  mostApostrophes := longestRun '\'' 0 cs

/-- The ways to quote a text. -/
inductive Quoting where
  | basic
  | literal
  | basicLines
  | literalLines
deriving DecidableEq

/-- The plainest way to quote a text : without escapes if there is one, and on one line if
there is one. -/
def quotingOf (c : Contents) : Quoting :=
  if !c.hasControl && !c.hasBackslash && c.mostQuotes == 0 && !c.hasBreak then .basic
  else if !c.hasControl && c.mostApostrophes == 0 && !c.hasBreak then .literal
  else if !c.hasControl && !c.hasBackslash && c.mostQuotes ≤ 2 then .basicLines
  else if !c.hasControl && c.mostApostrophes ≤ 2 then .literalLines
  else if c.hasBreak then .basicLines
  else .basic

/-- A code in four digits of base sixteen, with capitals. -/
def hexCode (n : Nat) : List Char :=
  [n / 4096 % 16, n / 256 % 16, n / 16 % 16, n % 16].map fun d => (Nat.digitChar d).toUpper

/-- A character between quotes, where `quotes` of them may stand together and `seen` stand
before it. -/
def escape (lines : Bool) (quotes seen : Nat) (c : Char) : List Char :=
  if c = '"' then (if seen < quotes then ['"'] else ['\\', '"'])
  else if c = '\\' then ['\\', '\\']
  else if c = '\n' then (if lines then ['\n'] else ['\\', 'n'])
  else if c = '\t' then ['\\', 't']
  else if c = '\r' then ['\\', 'r']
  else if c = '\x08' then ['\\', 'b']
  else if c = '\x0c' then ['\\', 'f']
  else if c.toNat < 32 || c.toNat = 127 then '\\' :: 'u' :: hexCode c.toNat
  else [c]

/-- A text between quotes. A quote that is escaped starts the count anew. -/
def escapeAll (lines : Bool) (quotes seen : Nat) : List Char → List Char
  | [] => []
  | c :: cs =>
    let next := if c = '"' && seen < quotes then seen + 1 else 0
    escape lines quotes seen c ++ escapeAll lines quotes next cs

/-- A text quoted in one of the ways. A text of several lines begins on a line of its own. -/
def quoteAs (quoting : Quoting) (cs : List Char) : List Char :=
  let start := if cs.contains '\n' then ['\n'] else []
  match quoting with
  | .basic => '"' :: (escapeAll false 0 0 cs ++ ['"'])
  | .literal => '\'' :: (cs ++ ['\''])
  | .basicLines => ['"', '"', '"'] ++ start ++ escapeAll true 2 0 cs ++ ['"', '"', '"']
  | .literalLines => ['\'', '\'', '\''] ++ start ++ cs ++ ['\'', '\'', '\'']

/-- A text as a value. -/
def quote (s : String) : List Char :=
  quoteAs (quotingOf (Contents.of s.toList)) s.toList

/-- Whether a key needs no quotes. -/
def isBareKey (cs : List Char) : Bool :=
  !cs.isEmpty && cs.all fun c => c.isAlphanum || c == '_' || c == '-'

/-- A key, always on one line. -/
def writeKey (s : String) : List Char :=
  let cs := s.toList
  if isBareKey cs then cs
  else
    match quotingOf (Contents.of cs) with
    | .literal => quoteAs .literal cs
    | _ => quoteAs .basic cs

/-- The keys of a path with dots between them. -/
def writePath (path : List String) : List Char :=
  ['.'].intercalate (path.map writeKey)

/-! ## Values -/

/-- Doubles never have an exponent, and a whole one keeps a decimal. -/
def layout : Decimal.Layout where
  positional := fun _ => true
  keepsPoint := true
  exponentSign := ""
  tie := .up
  notANumber := "nan"
  infinity := "inf"

/-- Items between brackets : none or one on the same line, more on a line each. -/
def writeArray : List (List Char) → List Char
  | [] => ['[', ']']
  | [item] => '[' :: (item ++ [']'])
  | items => '[' :: (items.flatMap (fun item => "\n    ".toList ++ item ++ [',']) ++ ['\n', ']'])

/-- Pairs between braces. -/
def writeInline : List (List Char) → List Char
  | [] => ['{', '}']
  | pairs => ['{', ' '] ++ [',', ' '].intercalate pairs ++ [' ', '}']

/-- A key with its value. -/
def writePair (key : String) (value : List Char) : List Char :=
  writeKey key ++ [' ', '=', ' '] ++ value

mutual

/-- A document as a value, unless there is a null in it. -/
def writeValue? : Document → Option (List Char)
  | .null => none
  | .bool b => some (if b then "true" else "false").toList
  | .number (.integer n) => some (Json.integerText n)
  | .number (.double x) => some (layout.write x).toList
  | .text s => some (quote s)
  | .list items => (writeItems? items).map writeArray
  | .object fields => (writePairs? fields).map writeInline

/-- Documents as values. -/
def writeItems? : List Document → Option (List (List Char))
  | [] => some []
  | d :: rest => do
    let first ← writeValue? d
    let others ← writeItems? rest
    return first :: others

/-- Fields as keys with values. -/
def writePairs? : List (String × Document) → Option (List (List Char))
  | [] => some []
  | (key, d) :: rest => do
    let first ← writeValue? d
    let others ← writePairs? rest
    return writePair key first :: others

end

/-! ## Tables -/

/-- Whether a document is an object. -/
def isTable : Document → Bool
  | .object _ => true
  | _ => false

/-- Whether a document is written under headers of its own. -/
def hasHeaders : Document → Bool
  | .object _ => true
  | .list items => !items.isEmpty && items.all isTable
  | _ => false

/-- The kinds of header. -/
inductive Header where
  | root
  | table
  | item
deriving DecidableEq

/-- A header line. -/
def writeHeader (path : List String) : Header → List Char
  | .root => []
  | .table => '[' :: (writePath path ++ [']', '\n'])
  | .item => ['[', '['] ++ writePath path ++ [']', ']', '\n']

/-- The fields that a table holds itself, a line each. -/
def writeBody? : List (String × Document) → Option (List Char)
  | [] => some []
  | (key, d) :: rest =>
    if hasHeaders d then writeBody? rest
    else do
      let value ← writeValue? d
      let others ← writeBody? rest
      return writePair key value ++ '\n' :: others

/-- A block of lines under one header. Blocks have an empty line between them. -/
abbrev Block := List Char

/-- The block of a table's own fields. A table of other tables alone needs no header. -/
def ownBlock (header : Header) (path : List String) (fields : List (String × Document))
    (body : List Char) : List Block :=
  let needed :=
    match header with
    | .root => !body.isEmpty
    | .table => !body.isEmpty || fields.isEmpty
    | .item => true
  if needed then [writeHeader path header ++ body] else []

mutual

/-- The blocks of a document under a path, if it has headers of its own. -/
def blocksOf? (path : List String) : Document → Option (List Block)
  | .object fields => do
    let body ← writeBody? fields
    let inner ← blocksOfFields? path fields
    return ownBlock .table path fields body ++ inner
  | .list items => if hasHeaders (.list items) then blocksOfItems? path items else some []
  | _ => some []

/-- The blocks of the tables of an array. -/
def blocksOfItems? (path : List String) : List Document → Option (List Block)
  | [] => some []
  | .object fields :: rest => do
    let body ← writeBody? fields
    let inner ← blocksOfFields? path fields
    let others ← blocksOfItems? path rest
    return ownBlock .item path fields body ++ inner ++ others
  | _ :: rest => blocksOfItems? path rest

/-- The blocks of the tables under the keys of a table. -/
def blocksOfFields? (path : List String) : List (String × Document) → Option (List Block)
  | [] => some []
  | (key, d) :: rest => do
    let first ← blocksOf? (path ++ [key]) d
    let others ← blocksOfFields? path rest
    return first ++ others

end

/-- A document as a file. -/
def write? : Document → Option String
  | .object fields => do
    let body ← writeBody? fields
    let inner ← blocksOfFields? [] fields
    return String.ofList (['\n'].intercalate (ownBlock .root [] fields body ++ inner))
  | _ => none

end SurfaceDrift.Toml
