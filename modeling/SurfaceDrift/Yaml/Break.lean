/-!
# Lines and blanks of YAML

Text is read with one spelling of the line break (`normalizeBreaks`); the line and the
paragraph separators of Unicode also end a line and keep their spelling. A `Place` follows
the lines and columns of a text, and a `Cursor` is a place with the text that follows.

Inside a scalar of several lines a run of blanks and breaks is folded (`foldRun`) : a single
break becomes a space, and of more breaks the first one is dropped.
-/

namespace SurfaceDrift.Yaml

/-! ## Characters -/

/-- The characters that end a line, in text with normalized breaks. -/
def isBreak (c : Char) : Bool := c == '\n' || c == '\u2028' || c == '\u2029'

/-- A space or a tab. -/
def isBlank (c : Char) : Bool := c == ' ' || c == '\t'

/-- A blank or a break. -/
def isSpacing (c : Char) : Bool := isBlank c || isBreak c

/-- Whether a text begins with a blank or a break, or is at its end. -/
def startsSpaced : List Char → Bool
  | [] => true
  | c :: _ => isSpacing c

/-- One spelling for the breaks of a carriage return, a line feed, both, or the control
character of the next line. -/
def normalizeBreaks : List Char → List Char
  | [] => []
  | '\r' :: '\n' :: cs => '\n' :: normalizeBreaks cs
  | c :: cs => (if c = '\r' || c = '\u0085' then '\n' else c) :: normalizeBreaks cs

/-- The characters that a text may hold. -/
def isAllowed (c : Char) : Bool :=
  let n := c.toNat
  n == 9 || n == 10 || n == 13 || (32 ≤ n && n ≤ 126) || n == 0x85 ||
    (0xA0 ≤ n && n ≤ 0xD7FF) || (0xE000 ≤ n && n ≤ 0xFFFD) || 0x10000 ≤ n

/-! ## Places -/

/-- Where a character stands : how many bytes stand before it, its line and its column, from
zero. -/
structure Place where
  offset : Nat
  line : Nat
  column : Nat

/-- The beginning of a text. -/
def Place.start : Place := ⟨0, 0, 0⟩

/-- The place after a character. -/
def Place.past (p : Place) (c : Char) : Place :=
  let offset := p.offset + c.utf8Size
  if isBreak c then ⟨offset, p.line + 1, 0⟩ else ⟨offset, p.line, p.column + 1⟩

/-- A place in a text, and the text from there on. -/
structure Cursor where
  place : Place
  rest : List Char

namespace Cursor

/-- The column of a cursor. -/
def column (c : Cursor) : Nat := c.place.column

/-- Past one character. -/
def step (c : Cursor) : Cursor :=
  match c.rest with
  | [] => c
  | x :: rest => ⟨c.place.past x, rest⟩

/-- Past `n` characters. -/
def drop (c : Cursor) : Nat → Cursor
  | 0 => c
  | n + 1 => c.step.drop n

/-- The characters at the cursor that satisfy `p`. -/
def taken (c : Cursor) (p : Char → Bool) : List Char := c.rest.takeWhile p

/-- Past the characters that satisfy `p`. -/
def dropWhile (c : Cursor) (p : Char → Bool) : Cursor := c.drop (c.taken p).length

/-- Past the blanks. -/
def dropBlanks (c : Cursor) : Cursor := c.dropWhile isBlank

/-- Past the rest of the line, not its break. -/
def dropLine (c : Cursor) : Cursor := c.dropWhile (!isBreak ·)

/-- Past a comment, if there is one. -/
def dropComment (c : Cursor) : Cursor :=
  match c.rest with
  | '#' :: _ => c.dropLine
  | _ => c

/-- Past the blanks, a comment and the break at the end of a line, where nothing else may
stand. -/
def endLine? (c : Cursor) : Option Cursor :=
  let c := c.dropBlanks.dropComment
  match c.rest with
  | [] => some c
  | x :: _ => if isBreak x then some c.step else none

end Cursor

/-- Whether a line begins with three hyphens or three dots that stand alone. -/
def isDocumentMark : List Char → Bool
  | '-' :: '-' :: '-' :: cs => startsSpaced cs
  | '.' :: '.' :: '.' :: cs => startsSpaced cs
  | _ => false

/-! ## Folding -/

/-- A run of blanks and breaks inside a scalar, as the scalar holds it. -/
def foldRun (run : List Char) : List Char :=
  match run.filter isBreak with
  | [] => run
  | ['\n'] => [' ']
  | '\n' :: more => more
  | breaks => breaks

end SurfaceDrift.Yaml
