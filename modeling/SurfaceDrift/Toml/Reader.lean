import SurfaceDrift.Toml.Scalar
import SurfaceDrift.Toml.Table

/-!
# Reading TOML

A document of TOML is a sequence of lines : headers of tables, and keys with their values.
`Toml.parse?` reads it line by line into open tables and closes them at the end, and
`Toml.read?` is the document of these tables. Arrays and inline tables may go on over several
lines and may end with a comma.
-/

namespace SurfaceDrift.Toml

open Text (Reader)

/-! ## Lines -/

/-- The text after a comment, up to the end of the line; a comment holds no control
character. -/
def skipComment : List Char → Option (List Char)
  | '#' :: cs =>
    let rest := cs.dropWhile (!isControl ·)
    match rest with
    | [] => some []
    | _ => (Text.dropLineBreak rest).map fun _ => rest
  | cs => some cs

/-- The text after the end of a line, with a comment before it. -/
def endLine (cs : List Char) : Option (List Char) := do
  match ← skipComment (skipBlanks cs) with
  | [] => some []
  | rest => Text.dropLineBreak rest

/-- The text after blanks, comments and line breaks. -/
def skipLines : Nat → List Char → Option (List Char)
  | 0, cs => some cs
  | fuel + 1, cs => do
    let rest ← skipComment (skipBlanks cs)
    match Text.dropLineBreak rest with
    | some more => skipLines fuel more
    | none => some rest

/-! ## Keys -/

/-- The characters of a key without quotes. -/
def isBare (c : Char) : Bool := c.isAlphanum || c == '_' || c == '-'

/-- One part of a key. -/
def readKeyPart : Reader String := fun cs =>
  match cs with
  | '"' :: _ => readQuoted cs
  | '\'' :: _ => readQuoted cs
  | _ =>
    let bare := cs.takeWhile isBare
    if bare.isEmpty then none else some (String.ofList bare, cs.dropWhile isBare)

/-- The parts of a key after the first one. -/
def readKeyRest : Nat → Reader (List String)
  | 0, _ => none
  | fuel + 1, cs =>
    match skipBlanks cs with
    | '.' :: rest => do
      let (part, rest) ← readKeyPart (skipBlanks rest)
      let (parts, rest) ← readKeyRest fuel rest
      return (part :: parts, rest)
    | rest => some ([], rest)

/-- A key has at most this many parts. -/
def maxKeyParts : Nat := 80

/-- A key of one or more parts, as the path to the last part and that part. -/
def readKey : Reader (List String × String) := fun cs => do
  let (part, rest) ← readKeyPart (skipBlanks cs)
  let (parts, rest) ← readKeyRest (rest.length + 1) rest
  let all := part :: parts
  if maxKeyParts < all.length then none
  else return ((all.dropLast, all.getLastD part), rest)

/-! ## Values -/

/-- The items of an array, up to its end. -/
def readItems (value : Reader Value) : Nat → Reader (List Value)
  | 0, _ => none
  | fuel + 1, cs => do
    match ← skipLines cs.length cs with
    | ']' :: rest => some ([], rest)
    | rest =>
      let (v, rest) ← value rest
      match ← skipLines rest.length rest with
      | ',' :: rest =>
        let (vs, rest) ← readItems value fuel rest
        return (v :: vs, rest)
      | ']' :: rest => some ([v], rest)
      | _ => none

/-- A key, an equals sign and a value; `gap` passes over what may stand around the sign. -/
def readPair (gap : List Char → Option (List Char)) (value : Reader Value) :
    Reader ((List String × String) × Value) :=
  fun cs => do
    let (key, rest) ← readKey cs
    match ← gap rest with
    | '=' :: rest =>
      let (v, rest) ← value (← gap rest)
      return ((key, v), rest)
    | _ => none

/-- The pairs of an inline table, up to its end, added to the entries. -/
def readPairs (value : Reader Value) : Nat → Entries → Reader Entries
  | 0, _, _ => none
  | fuel + 1, entries, cs => do
    match ← skipLines cs.length cs with
    | '}' :: rest => some (entries, rest)
    | rest =>
      let (((path, key), v), rest) ← readPair (fun cs => skipLines cs.length cs) value rest
      let entries ← addDotted path key v entries
      match ← skipLines rest.length rest with
      | ',' :: rest => readPairs value fuel entries rest
      | '}' :: rest => some (entries, rest)
      | _ => none

/-- A value in which arrays and inline tables nest at most `depth` deep. -/
def readValue (depth : Nat) (cs : List Char) : Option (Value × List Char) :=
  match cs with
  | '"' :: _ => (readText cs).map fun p => (.text p.1, p.2)
  | '\'' :: _ => (readText cs).map fun p => (.text p.1, p.2)
  | '[' :: rest =>
    match depth with
    | 0 => none
    | depth + 1 =>
      (readItems (readValue depth) (rest.length + 1) rest).map fun p => (.list p.1, p.2)
  | '{' :: rest =>
    match depth with
    | 0 => none
    | depth + 1 =>
      (readPairs (readValue depth) (rest.length + 1) [] rest).map fun p =>
        (.table (closeEntries p.1), p.2)
  | _ => readScalar cs

/-- Arrays and inline tables nest at most this deep. -/
def maxDepth : Nat := 80

/-! ## Documents -/

/-- The tables read so far, and the path of the header above. -/
structure Progress where
  entries : Entries
  header : List String

/-- The key of a header, up to its closing brackets and the end of the line. -/
def readHeaderKey (brackets : List Char) : Reader (List String × String) := fun cs => do
  let (key, rest) ← readKey cs
  if rest.take brackets.length = brackets then
    let rest ← endLine (rest.drop brackets.length)
    return (key, rest)
  else none

/-- One line that is not empty. -/
def readLine (p : Progress) : List Char → Option (Progress × List Char)
  | '[' :: '[' :: cs => do
    let ((path, key), rest) ← readHeaderKey [']', ']'] cs
    return (⟨← openNext path key p.entries, path ++ [key]⟩, rest)
  | '[' :: cs => do
    let ((path, key), rest) ← readHeaderKey [']'] cs
    return (⟨← openTable path key p.entries, path ++ [key]⟩, rest)
  | cs => do
    let (((path, key), v), rest) ← readPair (some ∘ skipBlanks) (readValue maxDepth) cs
    let rest ← endLine rest
    return (⟨← addUnder p.header path key v p.entries, p.header⟩, rest)

/-- All lines to the end. -/
def readLines : Nat → Progress → List Char → Option Progress
  | 0, _, _ => none
  | fuel + 1, p, cs => do
    match ← skipLines cs.length cs with
    | [] => some p
    | rest =>
      let (p, rest) ← readLine p rest
      readLines fuel p rest

/-- The values of a text by name; a byte order mark in front is passed over. -/
def parse? (s : String) : Option (List (String × Value)) := do
  let cs :=
    match s.toList with
    | '\uFEFF' :: cs => cs
    | cs => cs
  let p ← readLines (cs.length + 1) ⟨[], []⟩ cs
  return closeEntries p.entries

/-- The document that a text is. -/
def read? (s : String) : Option Document :=
  (parse? s).bind fun entries => (Value.table entries).toDocument?

end SurfaceDrift.Toml
