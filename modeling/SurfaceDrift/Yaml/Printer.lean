import SurfaceDrift.Json.Printer
import SurfaceDrift.Yaml.Scalar

/-!
# Writing YAML

`Yaml.write` writes documents as blocks : an entry or a member on a line of its own, two
columns further in than what holds it, except that a list stands at the column of its key.
Empty containers are brackets. Lines are never broken.

A text of several lines is written as lines after a bar. Any other text has no quotes unless
it would be read as something else (`Word.meaning`) or has a form that no plain scalar has
(`Form.allowsPlain`); then it has single quotes, and double quotes with escapes where
characters must not be written as they are (`Form.allowsSingle`). A key goes on one line
with its colon, or after a question mark if it is long or has several lines.
-/

namespace SurfaceDrift.Yaml

/-! ## The form of a text -/

/-- The characters that end a line for a reader of the output. -/
def endsLine (c : Char) : Bool := c ∈ ['\n', '\r', '\u0085', '\u2028', '\u2029']

/-- A blank, a break, or the end of a text. -/
def isGap : Option Char → Bool
  | none => true
  | some c => c == ' ' || c == '\t' || c == '\x00' || endsLine c

/-- The characters that may be written as they are. -/
def isPrintable (c : Char) : Bool :=
  let n := c.toNat
  n == 10 || (32 ≤ n && n ≤ 126) || (0xA0 ≤ n && n ≤ 0xD7FF) ||
    (0xE000 ≤ n && n ≤ 0xFFFD && n != 0xFEFF) || 0x10000 ≤ n

/-- Whether some character of a text and the one after it satisfy `p`. -/
def hasPair (p : Char → Char → Bool) (cs : List Char) : Bool :=
  (cs.zip cs.tail).any fun pair => p pair.1 pair.2

/-- Whether a text begins like something other than a plain scalar. -/
def startsMarked : List Char → Bool
  | '-' :: '-' :: '-' :: _ => true
  | '.' :: '.' :: '.' :: _ => true
  | c :: cs =>
    c ∈ "#,[]\x7b\x7d&*!|>'\"%@\x60".toList || (c ∈ ['?', ':', '-'] && isGap cs.head?)
  | [] => false

/-- Whether a text holds what ends a plain scalar : a colon before a gap, or a number sign
after one. -/
def holdsMark (cs : List Char) : Bool :=
  hasPair (fun c d => (c == ':' && isGap (some d)) || (isGap (some c) && d == '#')) cs ||
    cs.getLast? == some ':'

/-- What decides how a text may be written. -/
structure Form where
  /-- It looks like something other than a scalar. -/
  marked : Bool
  severalLines : Bool
  /-- A space or a break at an end. -/
  spacedEnds : Bool
  spaceAtEnd : Bool
  /-- A break and then a space, inside. -/
  breakSpace : Bool
  /-- A space and then a break, inside. -/
  spaceBreak : Bool
  unprintable : Bool

/-- The form of a text. -/
def Form.of (cs : List Char) : Form where
  marked := startsMarked cs || holdsMark cs
  severalLines := cs.any endsLine
  spacedEnds := [cs.head?, cs.getLast?].any (·.any fun c => c == ' ' || endsLine c)
  spaceAtEnd := cs.getLast? == some ' '
  breakSpace := hasPair (fun c d => endsLine c && d == ' ') cs
  spaceBreak := hasPair (fun c d => c == ' ' && endsLine d) cs
  unprintable := !cs.all isPrintable

namespace Form

/-- Whether a text may have single quotes. -/
def allowsSingle (f : Form) : Bool := !(f.breakSpace || f.spaceBreak || f.unprintable)

/-- Whether a text may have no quotes. -/
def allowsPlain (f : Form) : Bool :=
  f.allowsSingle && !(f.marked || f.severalLines || f.spacedEnds)

/-- Whether a text may be lines after a bar. -/
def allowsLines (f : Form) : Bool := !(f.spaceAtEnd || f.spaceBreak || f.unprintable)

end Form

/-- The ways to write a text. -/
inductive TextStyle where
  | plain
  | single
  | double
  | lines
deriving DecidableEq

/-- Whether a text without quotes would be read as something else, or looks as if it would. -/
def isMistakable (s : String) : Bool :=
  Word.isZeroLed s.toList ||
    match Word.meaning s with
    | .text => false
    | _ => true

/-- How a text is written. -/
def styleOf (s : String) : TextStyle :=
  let f := Form.of s.toList
  if s.contains '\n' then if f.allowsLines then .lines else .double
  else if f.allowsPlain && !isMistakable s then .plain
  else if f.allowsSingle then .single
  else .double

/-! ## Texts -/

/-- Spaces up to a column. -/
def spaces (column : Nat) : List Char := List.replicate column ' '

/-- The lines of a text that has several, where `fresh` says that a line begins. What is
not at the beginning of a line's text stands at `indent`. -/
def indentLines (indent : Nat) (escape : Char → List Char) (fresh : Bool) :
    List Char → List Char
  | [] => []
  | c :: cs =>
    if endsLine c then c :: indentLines indent escape true cs
    else (if fresh then spaces indent else []) ++ escape c ++ indentLines indent escape false cs

/-- A text in single quotes, where a quote is written twice. -/
def singleQuoted (indent : Nat) (cs : List Char) : List Char :=
  let escape (c : Char) : List Char := if c = '\'' then ['\'', '\''] else [c]
  let closing := if cs.getLast?.any endsLine then spaces indent else []
  '\'' :: (indentLines indent escape false cs ++ closing ++ ['\''])

/-- The letter after a backslash that stands for a character. -/
def escapeLetter? (c : Char) : Option Char :=
  [('\x00', '0'), ('\x07', 'a'), ('\x08', 'b'), ('\t', 't'), ('\n', 'n'), ('\x0b', 'v'),
    ('\x0c', 'f'), ('\r', 'r'), ('\x1b', 'e'), ('"', '"'), ('\\', '\\'), ('\u0085', 'N'),
    ('\u2028', 'L'), ('\u2029', 'P')].lookup c

/-- A code point in so many digits of base sixteen, with capitals. -/
def codeDigits (width n : Nat) : List Char :=
  let digits := (Nat.toDigits 16 n).map Char.toUpper
  List.replicate (width - digits.length) '0' ++ digits

/-- A character by its code point. -/
def codeEscape (c : Char) : List Char :=
  let n := c.toNat
  if n ≤ 0xFF then '\\' :: 'x' :: codeDigits 2 n
  else if n ≤ 0xFFFF then '\\' :: 'u' :: codeDigits 4 n
  else '\\' :: 'U' :: codeDigits 8 n

/-- A character between double quotes. -/
def escapeDouble (c : Char) : List Char :=
  match escapeLetter? c with
  | some letter => ['\\', letter]
  | none => if isPrintable c then [c] else codeEscape c

/-- A text in double quotes. -/
def doubleQuoted (cs : List Char) : List Char :=
  '"' :: (cs.flatMap escapeDouble ++ ['"'])

/-- What the line above a block of lines says : the indent, if the first line hides it, and
what becomes of the breaks at the end. -/
def blockHints (cs : List Char) : List Char :=
  let indent := if cs.head?.any fun c => c == ' ' || endsLine c then ['2'] else []
  let chomping :=
    match cs.reverse with
    | last :: before =>
      if !endsLine last then ['-']
      else if before.head?.all endsLine then ['+']
      else []
    | [] => ['-']
  indent ++ chomping

/-- A text as lines after a bar, with a break at the end. -/
def blockLines (indent : Nat) (cs : List Char) : List Char :=
  let ending := if cs.getLast?.any endsLine then [] else ['\n']
  '|' :: (blockHints cs ++ '\n' :: indentLines indent (fun c => [c]) true cs ++ ending)

/-- A text to the end of its last line. Its further lines stand at `indent`. -/
def textLines (indent : Nat) (s : String) : List Char :=
  let cs := s.toList
  match styleOf s with
  | .plain => cs ++ ['\n']
  | .single => singleQuoted indent cs ++ ['\n']
  | .double => doubleQuoted cs ++ ['\n']
  | .lines => blockLines indent cs

/-! ## Documents -/

/-- An exponent below `1e-5` and from `1e16` on, and always a decimal elsewhere. -/
def layout : Decimal.Layout := { Decimal.document with exponentSign := "" }

/-- A number. -/
def numberText : Number → List Char
  | .integer n => Json.integerText n
  | .double x => (layout.write x).toList

/-- The longest key, in bytes, that goes on a line with its colon. -/
def maxKeyBytes : Nat := 128

/-- Whether a key goes on a line with its colon. -/
def isSimpleKey (s : String) : Bool := !s.toList.any endsLine && s.utf8ByteSize ≤ maxKeyBytes

/-- A key with its colon, at a column. -/
def keyText (column : Nat) (name : String) : List Char :=
  if isSimpleKey name then (textLines (column + 2) name).dropLast ++ [':']
  else '?' :: ' ' :: (textLines (column + 2) name ++ spaces column ++ [':'])

/-- A document that is neither a list nor an object with something in it, to the end of its
last line. -/
def scalarLines (indent : Nat) : Document → List Char
  | .null => "null\n".toList
  | .bool true => "true\n".toList
  | .bool false => "false\n".toList
  | .number n => numberText n ++ ['\n']
  | .text s => textLines indent s
  | .list _ => "[]\n".toList
  | .object _ => "\x7b\x7d\n".toList

/-- The column of a document after its key, if it begins on a new line : a list stands below
its key, an object further in. -/
def newLineColumn? (column : Nat) : Document → Option Nat
  | .list (_ :: _) => some column
  | .object (_ :: _) => some (column + 2)
  | _ => none

mutual

/-- A document that begins at a column, to the end of its last line. -/
def block (column : Nat) : Document → List Char
  | .list (d :: rest) => '-' :: ' ' :: (block (column + 2) d ++ blockItems column rest)
  | .object ((name, d) :: rest) =>
    keyText column name ++ blockValue column name d ++ blockFields column rest
  | d => scalarLines column d

/-- The entries of a list after the first one. -/
def blockItems (column : Nat) : List Document → List Char
  | [] => []
  | d :: rest =>
    spaces column ++ '-' :: ' ' :: (block (column + 2) d ++ blockItems column rest)

/-- The members of an object after the first one. -/
def blockFields (column : Nat) : List (String × Document) → List Char
  | [] => []
  | (name, d) :: rest =>
    spaces column ++ keyText column name ++ blockValue column name d ++ blockFields column rest

/-- A value after its key. -/
def blockValue (column : Nat) (name : String) (d : Document) : List Char :=
  match if isSimpleKey name then newLineColumn? column d else none with
  | some start => '\n' :: (spaces start ++ block start d)
  | none => ' ' :: block (column + 2) d

end

/-- A document as a file. -/
def write (d : Document) : String :=
  String.ofList <|
    match newLineColumn? 0 d with
    | some _ => block 0 d
    | none => scalarLines 2 d

end SurfaceDrift.Yaml
