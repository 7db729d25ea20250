import SurfaceDrift.Yaml.Break

/-!
# Plain scalars

A plain scalar has no quotes. It goes on over blanks and breaks as long as its lines are
indented, and ends before a comment, before a colon that a blank follows, and inside
brackets before a comma or a bracket.
-/

namespace SurfaceDrift.Yaml

/-- The brackets and the comma, which end a plain scalar inside brackets. -/
def isFlowMark (c : Char) : Bool := c ∈ [',', '[', ']', '{', '}']

/-- Where a scalar stands : inside brackets or not, and the least column of its lines. -/
structure ScalarContext where
  inFlow : Bool
  indent : Int

/-- A plain scalar as it was read : its text, whether a break follows it, and the rest. -/
structure PlainScalar where
  text : List Char
  broken : Bool
  after : Cursor

/-- A colon inside brackets with a bracket or a question mark behind it, which is neither
text nor the end of a key. -/
def isStrayColon : List Char → Bool
  | ':' :: c :: _ => c == '?' || isFlowMark c
  | _ => false

/-- Whether a plain scalar ends before a character that is not a blank. -/
def endsPlain (inFlow : Bool) : List Char → Bool
  | [] => true
  | c :: cs => (c == ':' && startsSpaced cs) || (inFlow && isFlowMark c)

/-- Whether a plain scalar ends where a line or a word after a blank begins. -/
def endsPlainWord (x : ScalarContext) (place : Place) (cs : List Char) : Bool :=
  (!x.inFlow && (place.column : Int) < x.indent) ||
    (place.column == 0 && isDocumentMark cs) || cs.head? == some '#'

/-- Reads on after `text` and the blanks and breaks `run`, the last one first. -/
def readPlainFrom (x : ScalarContext) (text run : List Char) (place : Place) :
    List Char → Option PlainScalar
  | [] => some ⟨text.reverse, run.any isBreak, ⟨place, []⟩⟩
  | c :: cs =>
    if isSpacing c then
      if c = '\t' && run.any isBreak && (place.column : Int) < x.indent then none
      else readPlainFrom x text (c :: run) (place.past c) cs
    else if !run.isEmpty && endsPlainWord x place (c :: cs) then
      some ⟨text.reverse, run.any isBreak, ⟨place, c :: cs⟩⟩
    else if x.inFlow && isStrayColon (c :: cs) then none
    else if endsPlain x.inFlow (c :: cs) then
      some ⟨text.reverse, run.any isBreak, ⟨place, c :: cs⟩⟩
    else
      readPlainFrom x (c :: ((foldRun run.reverse).reverse ++ text)) [] (place.past c) cs

/-- The plain scalar at a cursor. -/
def readPlain (x : ScalarContext) (c : Cursor) : Option PlainScalar :=
  readPlainFrom x [] [] c.place c.rest

end SurfaceDrift.Yaml
