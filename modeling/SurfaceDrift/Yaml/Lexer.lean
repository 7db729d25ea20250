import SurfaceDrift.Yaml.Block
import SurfaceDrift.Yaml.Plain
import SurfaceDrift.Yaml.Property
import SurfaceDrift.Yaml.Quoted

/-!
# From text to tokens

Blocks are told by columns : the lexer opens a block where a dash, a question mark or a key
stands further in than the block around it, and closes the blocks that a line does not reach
(`Lexer.openBlock`, `Lexer.closeBlocks`).

A key is known only at its colon. So the beginning of what may be a key is remembered, one
for every pair of brackets (`KeyStart`), and the token for the key is put in front of it when
the colon comes. A key ends on its line and is at most 1024 bytes long. What begins at
the column of its block must be a key (`KeyStart.required`).
-/

namespace SurfaceDrift.Yaml

/-- The beginning of what may be a key. -/
structure KeyStart where
  /-- How many tokens stand before it. -/
  position : Nat
  place : Place
  required : Bool

/-- The state between two tokens. -/
structure Lexer where
  cursor : Cursor
  tokens : Array Token
  /-- The column of the innermost block, or -1, and those around it. -/
  indent : Int
  outer : List Int
  /-- A key may begin here. -/
  keyAllowed : Bool
  /-- What may be a key, inside the innermost brackets and those around them. -/
  keyStart : Option KeyStart
  outerStarts : List (Option KeyStart)

namespace Lexer

/-- Before the first token. -/
def start (text : List Char) : Lexer where
  cursor := ⟨.start, text⟩
  tokens := #[]
  indent := -1
  outer := []
  keyAllowed := true
  keyStart := none
  outerStarts := []

/-- Whether the lexer is inside brackets. -/
def inFlow (l : Lexer) : Bool := !l.outerStarts.isEmpty

/-- The column of the next character. -/
def column (l : Lexer) : Int := l.cursor.column

/-- Adds a token. -/
def push (l : Lexer) (t : Token) : Lexer := { l with tokens := l.tokens.push t }

/-- Adds a token of `n` characters. -/
def pushMark (l : Lexer) (t : Token) (n : Nat) : Lexer :=
  { l.push t with cursor := l.cursor.drop n }

/-! ## Blocks -/

/-- Opens a block at a column, with its first token at a position, unless the innermost block
is as far in. There are no blocks inside brackets. -/
def openBlock (l : Lexer) (column : Int) (position : Nat) (t : Token) : Lexer :=
  if l.inFlow || column ≤ l.indent then l
  else
    { l with
      tokens := l.tokens.insertIdxIfInBounds position t
      indent := column
      outer := l.indent :: l.outer }

/-- Opens a block at the next character. -/
def openBlockHere (l : Lexer) (t : Token) : Lexer :=
  l.openBlock l.column l.tokens.size t

/-- Closes the blocks among `outer` and the innermost one that are further in than a
column. -/
def closeBlocksFrom (column : Int) (tokens : Array Token) (indent : Int) :
    List Int → Array Token × Int × List Int
  | [] => (tokens, indent, [])
  | next :: outer =>
    if column < indent then closeBlocksFrom column (tokens.push .blockEnd) next outer
    else (tokens, indent, next :: outer)

/-- Closes the blocks that are further in than a column. -/
def closeBlocks (l : Lexer) (column : Int) : Lexer :=
  if l.inFlow then l
  else
    let (tokens, indent, outer) := closeBlocksFrom column l.tokens l.indent l.outer
    { l with tokens := tokens, indent := indent, outer := outer }

/-! ## Keys -/

/-- Forgets what may be a key, unless it must be one. -/
def dropKeyStart (l : Lexer) : Option Lexer :=
  if l.keyStart.any KeyStart.required then none else some { l with keyStart := none }

/-- Remembers that a key may begin here, if it may. -/
def saveKeyStart (l : Lexer) : Option Lexer :=
  if l.keyAllowed then
    l.dropKeyStart.map fun l =>
      let required := !l.inFlow && l.indent == l.column
      { l with keyStart := some ⟨l.tokens.size, l.cursor.place, required⟩ }
  else some l

/-- Whether a key that begins somewhere would be too long, or on more than one line. -/
def KeyStart.isStale (place : Place) (k : KeyStart) : Bool :=
  k.place.line < place.line || k.place.offset + 1024 < place.offset

/-- Forgets a beginning that cannot be that of a key any more, unless it must be. -/
def freshKeyStart (place : Place) : Option KeyStart → Option (Option KeyStart)
  | none => some none
  | some k =>
    if KeyStart.isStale place k then if k.required then none else some none
    else some (some k)

/-- Forgets all beginnings that cannot be those of keys any more. -/
def dropStaleKeyStarts (l : Lexer) : Option Lexer := do
  let place := l.cursor.place
  return { l with
    keyStart := ← freshKeyStart place l.keyStart
    outerStarts := ← l.outerStarts.mapM (freshKeyStart place) }

/-! ## Blanks -/

/-- Past blanks, comments and breaks. A key may begin on a new line. A tab is blank where no
key may begin. A byte order mark at the beginning of a line is passed over, and takes up a
column. -/
def skipBlanksFrom : Nat → Lexer → Lexer
  | 0, l => l
  | fuel + 1, l =>
    let c :=
      if l.cursor.column = 0 && l.cursor.rest.head? == some '\uFEFF' then l.cursor.step
      else l.cursor
    let tabs := l.inFlow || !l.keyAllowed
    let c := (c.dropWhile fun x => x == ' ' || (tabs && x == '\t')).dropComment
    match c.rest with
    | x :: _ =>
      if isBreak x then
        skipBlanksFrom fuel { l with cursor := c.step, keyAllowed := l.keyAllowed || !l.inFlow }
      else { l with cursor := c }
    | [] => { l with cursor := c }

/-- Past blanks, comments and breaks, and out of the blocks that the next token is not in. -/
def skipBlanks (l : Lexer) : Option Lexer := do
  let l ← (skipBlanksFrom (l.cursor.rest.length + 1) l).dropStaleKeyStarts
  return l.closeBlocks l.column

/-! ## Tokens -/

/-- Ends the text : the last line, and all blocks. -/
def finish (l : Lexer) : Option (Array Token) :=
  ((l.closeBlocks (-1)).dropKeyStart).map Lexer.tokens

/-- The end of all blocks, before a line that belongs to no document. -/
def leaveBlocks (l : Lexer) : Option Lexer :=
  (l.closeBlocks (-1)).dropKeyStart.map fun l => { l with keyAllowed := false }

/-- A directive. -/
def directive (l : Lexer) : Option Lexer := do
  let l ← l.leaveBlocks
  let (token, c) ← readDirective l.cursor
  return { l.push token with cursor := c }

/-- Three hyphens or three dots. -/
def documentMark (l : Lexer) (t : Token) : Option Lexer := do
  return (← l.leaveBlocks).pushMark t 3

/-- An opening bracket. -/
def openFlow (l : Lexer) (t : Token) : Option Lexer := do
  let l ← l.saveKeyStart
  return { l.pushMark t 1 with
    keyAllowed := true
    keyStart := none
    outerStarts := l.keyStart :: l.outerStarts }

/-- A closing bracket. -/
def closeFlow (l : Lexer) (t : Token) : Option Lexer := do
  let l ← l.dropKeyStart
  let l := { l.pushMark t 1 with keyAllowed := false }
  match l.outerStarts with
  | [] => return l
  | k :: outer => return { l with keyStart := k, outerStarts := outer }

/-- A comma inside brackets, or outside of them where it has no place. -/
def flowEntry (l : Lexer) : Option Lexer := do
  return { (← l.dropKeyStart).pushMark .flowEntry 1 with keyAllowed := true }

/-- A dash. -/
def blockEntry (l : Lexer) : Option Lexer := do
  if !l.inFlow && !l.keyAllowed then none
  let l ← (l.openBlockHere .blockSequenceStart).dropKeyStart
  return { l.pushMark .blockEntry 1 with keyAllowed := true }

/-- A question mark. -/
def explicitKey (l : Lexer) : Option Lexer := do
  if !l.inFlow && !l.keyAllowed then none
  let l ← (l.openBlockHere .blockMappingStart).dropKeyStart
  return { l.pushMark .key 1 with keyAllowed := !l.inFlow }

/-- A colon : what was remembered is a key, or the key is empty or was marked. -/
def value (l : Lexer) : Option Lexer :=
  match l.keyStart with
  | some k =>
    let l := { l with tokens := l.tokens.insertIdxIfInBounds k.position .key }
    let l := l.openBlock k.place.column k.position .blockMappingStart
    some { l.pushMark .value 1 with keyStart := none, keyAllowed := false }
  | none => do
    if !l.inFlow && !l.keyAllowed then none
    let l := l.openBlockHere .blockMappingStart
    return { l.pushMark .value 1 with keyAllowed := !l.inFlow }

/-- A token that may begin a key, and the cursor past it. -/
def keyPart (l : Lexer) (read : Cursor → Option (Token × Cursor)) : Option Lexer := do
  let l ← l.saveKeyStart
  let (token, c) ← read l.cursor
  return { l.push token with cursor := c, keyAllowed := false }

/-- A block scalar. -/
def blockScalar (l : Lexer) (folded : Bool) : Option Lexer := do
  let l ← l.dropKeyStart
  let (text, c) ← readBlock folded l.indent l.cursor.step
  return { l.push (.scalar false (String.ofList text)) with cursor := c, keyAllowed := true }

/-- A scalar in quotes. -/
def quotedScalar (l : Lexer) (style : QuoteStyle) : Option Lexer :=
  l.keyPart fun c =>
    (readQuoted style c).map fun p => (.scalar false (String.ofList p.1), p.2)

/-- A scalar without quotes. -/
def plainScalar (l : Lexer) : Option Lexer := do
  let l ← l.saveKeyStart
  let s ← readPlain ⟨l.inFlow, l.indent + 1⟩ l.cursor
  return { l.push (.scalar true (String.ofList s.text)) with
    cursor := s.after
    keyAllowed := s.broken }

/-- The characters that do not begin a plain scalar, unless what follows them makes one. -/
def isIndicator (c : Char) : Bool := c ∈ "-?:,[]\x7b\x7d#&*!|>'\"%@\x60".toList

/-- Whether a plain scalar begins here. -/
def startsPlain (inFlow : Bool) : List Char → Bool
  | [] => false
  | c :: cs =>
    !(isIndicator c || isBlank c) || (c == '-' && !(cs.head?.any isBlank)) ||
      (!inFlow && (c == '?' || c == ':') && !startsSpaced cs)

/-- The next token. -/
def next (l : Lexer) : Option Lexer :=
  let atColumn := l.cursor.column = 0
  match l.cursor.rest with
  | [] => none
  | c :: cs =>
    if atColumn && c = '%' then l.directive
    else if atColumn && isDocumentMark (c :: cs) then
      l.documentMark (if c = '-' then .documentStart else .documentEnd)
    else if c = '[' then l.openFlow .flowSequenceStart
    else if c = '{' then l.openFlow .flowMappingStart
    else if c = ']' then l.closeFlow .flowSequenceEnd
    else if c = '}' then l.closeFlow .flowMappingEnd
    else if c = ',' then l.flowEntry
    else if c = '-' && startsSpaced cs then l.blockEntry
    else if c = '?' && (l.inFlow || startsSpaced cs) then l.explicitKey
    else if c = ':' && (l.inFlow || startsSpaced cs) then l.value
    else if c = '*' then l.keyPart fun c => (readAnchor c).map fun p => (.alias p.1, p.2)
    else if c = '&' then l.keyPart fun c => (readAnchor c).map fun p => (.anchor p.1, p.2)
    else if c = '!' then
      l.keyPart fun c => (readTag l.inFlow c).map fun p => (.tag p.1, p.2)
    else if c = '|' && !l.inFlow then l.blockScalar false
    else if c = '>' && !l.inFlow then l.blockScalar true
    else if c = '\'' then l.quotedScalar .single
    else if c = '"' then l.quotedScalar .double
    else if startsPlain l.inFlow (c :: cs) then l.plainScalar
    else none

/-- All tokens to the end, at most `fuel` of them. -/
def run : Nat → Lexer → Option (Array Token)
  | 0, _ => none
  | fuel + 1, l => do
    let l ← l.skipBlanks
    match l.cursor.rest with
    | [] => l.finish
    | _ => run fuel (← l.next)

end Lexer

/-- The tokens of a text, if it has only characters that a text may hold. -/
def tokens? (s : String) : Option (List Token) :=
  let text := s.toList
  if text.all isAllowed then
    ((Lexer.start (normalizeBreaks text)).run (text.length + 1)).map Array.toList
  else none

end SurfaceDrift.Yaml
