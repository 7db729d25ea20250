/-!
# Blanks, and the pieces of a text

A blank is a character of the Unicode property White_Space (`isBlank`). `trim` drops the
blanks at both ends, `collapse` writes one space for every run of them, and `squeeze`
does both : what it returns has neither two blanks in a row nor one at an end.
`foldBreaks` writes a space only for those runs that hold a line break.

`pieces` cuts a text at every occurrence of a separator, and `cut` at the first one.
-/

namespace SurfaceDrift.Text

/-- The Unicode property White_Space. -/
def isBlank (c : Char) : Bool :=
  let n := c.toNat
  (9 ≤ n && n ≤ 13) || n == 32 || n == 0x85 || n == 0xA0 || n == 0x1680 ||
    (0x2000 ≤ n && n ≤ 0x200A) || n == 0x2028 || n == 0x2029 || n == 0x202F ||
    n == 0x205F || n == 0x3000

/-! ## Blanks at the ends -/

/-- The characters from the first to the last that does not satisfy `p`. -/
def stripBoth (p : Char → Bool) (cs : List Char) : List Char :=
  ((cs.dropWhile p).reverse.dropWhile p).reverse

/-- The text without the blanks at its ends. -/
def trim (s : String) : String :=
  String.ofList (stripBoth isBlank s.toList)

/-! ## Runs of blanks -/

/-- One space for every maximal run of blanks : a blank before another blank is dropped,
the last of a run becomes the space. -/
def collapse : List Char → List Char
  | [] => []
  | c :: cs =>
    if isBlank c then
      match cs with
      | d :: _ => if isBlank d then collapse cs else ' ' :: collapse cs
      | [] => [' ']
    else c :: collapse cs

/-- One space between any two words, and no blank at an end. -/
def squeeze (cs : List Char) : List Char :=
  stripBoth isBlank (collapse cs)

/-- A run of blanks as `foldBreaks` leaves it : a space if it holds a line break. -/
def foldRun (run : List Char) : List Char :=
  if run.contains '\n' then [' '] else run

/-- Reads on while `run` is the run of blanks read last. -/
def foldBreaksFrom (run : List Char) : List Char → List Char
  | [] => foldRun run
  | c :: cs =>
    if isBlank c then foldBreaksFrom (run ++ [c]) cs
    else foldRun run ++ c :: foldBreaksFrom [] cs

/-- One space for every maximal run of blanks that holds a line break; the other runs stay. -/
def foldBreaks (cs : List Char) : List Char :=
  foldBreaksFrom [] cs

/-! ## Pieces -/

/-- The pieces between the separators, one more than there are separators. -/
def pieces (separator : Char) : List Char → List (List Char)
  | [] => [[]]
  | c :: cs =>
    if c = separator then [] :: pieces separator cs
    else
      match pieces separator cs with
      | piece :: rest => (c :: piece) :: rest
      | [] => [[c]]

/-- The text before the first separator and the text after it. -/
def cut (separator : Char) : List Char → Option (List Char × List Char)
  | [] => none
  | c :: cs =>
    if c = separator then some ([], cs)
    else (cut separator cs).map fun p => (c :: p.1, p.2)

/-- The pieces of a string between the separators. -/
def split (separator : Char) (s : String) : List String :=
  (pieces separator s.toList).map String.ofList

/-- A string before and after its first separator. -/
def cutString (separator : Char) (s : String) : Option (String × String) :=
  (cut separator s.toList).map fun p => (String.ofList p.1, String.ofList p.2)

end SurfaceDrift.Text
