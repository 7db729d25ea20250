import SurfaceDrift.Text.Reader
import SurfaceDrift.Yaml.Break

/-!
# Quoted scalars

A text in single quotes writes a quote twice, and a text in double quotes has escapes. Both
may go over several lines, which are folded; a line of three hyphens or three dots may not
stand inside. An escaped break joins two lines without a space.
-/

namespace SurfaceDrift.Yaml

/-- The two kinds of quotes. -/
inductive QuoteStyle where
  | single
  | double
deriving DecidableEq

/-- The quote itself. -/
def QuoteStyle.mark : QuoteStyle → Char
  | single => '\''
  | double => '"'

/-- The characters that one letter after a backslash stands for. -/
def shortEscape? : Char → Option Char
  | '0' => some '\x00'
  | 'a' => some '\x07'
  | 'b' => some '\x08'
  | 't' => some '\t'
  | '\t' => some '\t'
  | 'n' => some '\n'
  | 'v' => some '\x0b'
  | 'f' => some '\x0c'
  | 'r' => some '\r'
  | 'e' => some '\x1b'
  | ' ' => some ' '
  | '"' => some '"'
  | '/' => some '/'
  | '\\' => some '\\'
  | 'N' => some '\u0085'
  | '_' => some '\u00a0'
  | 'L' => some '\u2028'
  | 'P' => some '\u2029'
  | _ => none

/-- How many digits of base sixteen follow a letter after a backslash. -/
def codeLength? : Char → Option Nat
  | 'x' => some 2
  | 'u' => some 4
  | 'U' => some 8
  | _ => none

/-- The character that an escape stands for, and how many characters follow the backslash. -/
def readEscape? : List Char → Option (Char × Nat)
  | [] => none
  | c :: cs =>
    match codeLength? c with
    | some length => do
      let digits := cs.take length
      if digits.length < length then none
      let char ← Text.charOf? (← Text.hexNumber? digits)
      return (char, length + 1)
    | none => (shortEscape? c).map fun char => (char, 1)

/-- The breaks of a run after an escaped break, which has taken the place of the first one. -/
def foldEscaped (run : List Char) : List Char := run.filter isBreak

/-- Reads on after `text`, for at most `fuel` steps. -/
def readQuotedFrom (style : QuoteStyle) : Nat → List Char → Cursor →
    Option (List Char × Cursor)
  | 0, _, _ => none
  | fuel + 1, text, c =>
    if c.column = 0 && isDocumentMark c.rest then none
    else
      match style, c.rest with
      | _, [] => none
      | .single, '\'' :: '\'' :: _ => readQuotedFrom style fuel ('\'' :: text) (c.drop 2)
      | .double, '\\' :: x :: cs =>
        if isBreak x then
          let run := cs.takeWhile isSpacing
          readQuotedFrom style fuel ((foldEscaped run).reverse ++ text) (c.drop (2 + run.length))
        else
          match readEscape? (x :: cs) with
          | some (char, length) => readQuotedFrom style fuel (char :: text) (c.drop (1 + length))
          | none => none
      | _, x :: _ =>
        if x = style.mark then some (text.reverse, c.step)
        else if isSpacing x then
          let run := c.taken isSpacing
          readQuotedFrom style fuel ((foldRun run).reverse ++ text) (c.drop run.length)
        else readQuotedFrom style fuel (x :: text) c.step

/-- The text between quotes of which the cursor is at the first one. -/
def readQuoted (style : QuoteStyle) (c : Cursor) : Option (List Char × Cursor) :=
  readQuotedFrom style (c.rest.length + 1) [] c.step

end SurfaceDrift.Yaml
