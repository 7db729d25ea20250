import SurfaceDrift.Yaml.Break

/-!
# Block scalars

A block scalar is the lines below a bar or an angle bracket, indented alike. After a bar the
breaks are kept. After an angle bracket a single break between two lines becomes a space,
unless one of them begins with a blank. The header says what becomes of the breaks at the
end, and may give the indent, which is otherwise that of the first line.
-/

namespace SurfaceDrift.Yaml

/-- What becomes of the breaks at the end of a block scalar. -/
inductive Chomping where
  | strip
  | clip
  | keep
deriving DecidableEq

/-- The line above a block scalar. -/
structure BlockHeader where
  chomping : Chomping
  indent : Option Nat

/-- The sign of a chomping. -/
def chomping? : List Char → Option Chomping
  | '+' :: _ => some .keep
  | '-' :: _ => some .strip
  | _ => none

/-- The digit of an indent, zero included. -/
def indentDigit? : List Char → Option Nat
  | c :: _ => if c.isDigit then some (c.toNat - '0'.toNat) else none
  | [] => none

/-- The sign and the digit after the mark of a block scalar, in either order, up to the end
of the line. -/
def readBlockHeader (c : Cursor) : Option (BlockHeader × Cursor) := do
  let signBefore := chomping? c.rest
  let c := if signBefore.isSome then c.step else c
  let indent := indentDigit? c.rest
  let c := if indent.isSome then c.step else c
  let signAfter := if signBefore.isNone && indent.isSome then chomping? c.rest else none
  let c := if signAfter.isSome then c.step else c
  if indent = some 0 then none
  return (⟨(signBefore.or signAfter).getD .clip, indent⟩, ← c.endLine?)

/-! ## Lines -/

/-- The blank lines before a line of text : their breaks, and the greatest column of their
blanks and of the line's first character. -/
structure BlankLines where
  breaks : List Char
  widest : Nat
  after : Cursor

/-- Reads blank lines. The spaces up to `indent` are no text, or all spaces if there is none
yet; a tab may not stand among them. -/
def readBlankLines (indent : Option Nat) (widest : Nat) (place : Place) :
    List Char → Option BlankLines
  | [] => some ⟨[], max widest place.column, ⟨place, []⟩⟩
  | c :: cs =>
    let inside := indent.all (place.column < ·)
    if c = ' ' && inside then readBlankLines indent widest (place.past c) cs
    else
      let widest := max widest place.column
      if c = '\t' && inside then none
      else if isBreak c then
        (readBlankLines indent widest (place.past c) cs).map fun b =>
          { b with breaks := c :: b.breaks }
      else some ⟨[], widest, ⟨place, c :: cs⟩⟩

/-- The lines read so far, the last character first; the break after the last line and the
breaks of the blank lines below it, which wait for the next line. -/
structure BlockText where
  text : List Char
  lineBreak : List Char
  blankBreaks : List Char
  /-- The last line begins with a blank. -/
  startsBlank : Bool

/-- The breaks between the last line and one that begins with a blank or not. -/
def BlockText.gap (folded : Bool) (b : BlockText) (startsBlank : Bool) : List Char :=
  if folded && b.lineBreak = ['\n'] && !b.startsBlank && !startsBlank then
    if b.blankBreaks.isEmpty then [' '] else b.blankBreaks
  else b.lineBreak ++ b.blankBreaks

/-- The whole text, with the breaks at its end as the header says. -/
def BlockText.finish (b : BlockText) : Chomping → List Char
  | .strip => b.text.reverse
  | .clip => b.text.reverse ++ b.lineBreak
  | .keep => b.text.reverse ++ b.lineBreak ++ b.blankBreaks

/-- Reads lines at `indent`, at most `fuel` of them. -/
def readBlockLines (folded : Bool) (indent : Nat) : Nat → BlockText → Cursor →
    Option (BlockText × Cursor)
  | 0, _, _ => none
  | fuel + 1, b, c =>
    match c.rest with
    | [] => some (b, c)
    | first :: _ =>
      if c.column = indent then
        let line := c.taken (!isBreak ·)
        let ended := c.drop line.length
        let after := ended.step
        match readBlankLines (some indent) 0 after.place after.rest with
        | none => none
        | some blank =>
          let text := line.reverse ++ ((b.gap folded (isBlank first)).reverse ++ b.text)
          readBlockLines folded indent fuel
            ⟨text, ended.rest.take 1, blank.breaks, isBlank first⟩ blank.after
      else some (b, c)

/-- The block scalar of which the cursor is past the mark, inside a block at column
`parent`, which is -1 at the top. -/
def readBlock (folded : Bool) (parent : Int) (c : Cursor) : Option (List Char × Cursor) := do
  let (header, c) ← readBlockHeader c
  let known := header.indent.map fun n => n + parent.toNat
  let blank ← readBlankLines known 0 c.place c.rest
  let indent := known.getD (max blank.widest (max 1 (parent + 1).toNat))
  let (b, after) ← readBlockLines folded indent (c.rest.length + 1)
    ⟨[], [], blank.breaks, false⟩ blank.after
  return (b.finish header.chomping, after)

end SurfaceDrift.Yaml
