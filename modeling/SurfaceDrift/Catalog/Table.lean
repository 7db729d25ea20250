import SurfaceDrift.Catalog

/-!
# The catalog as a table

`Catalog.table` shows the algorithms of a catalog with what they are for and their options.
A column is as wide as its longest line; a cell of several lines makes its row as high.
-/

namespace SurfaceDrift

/-- The lines of a table's cells, row by row. -/
abbrev Grid := List (List (List String))

namespace Grid

/-- The longest line of a cell. -/
def cellWidth (cell : List String) : Nat := (cell.map String.length).foldl max 0

/-- The greater of two widths, column by column. -/
def widen : List Nat → List Nat → List Nat
  | [], ws => ws
  | ws, [] => ws
  | v :: vs, w :: ws => max v w :: widen vs ws

/-- The widths of the columns. -/
def widths (rows : Grid) : List Nat :=
  rows.foldl (fun ws row => widen ws (row.map cellWidth)) []

/-- A line between rows : what it is drawn with, at its left, inside and at its right. -/
def rule (fill : Char) (left inner right : String) (widths : List Nat) : String :=
  left ++ inner.intercalate (widths.map fun w => String.ofList (List.replicate (w + 2) fill)) ++
    right

/-- A line of a cell, with a space before it and spaces up to the column's width. -/
def pad (width : Nat) (line : String) : String :=
  " " ++ line ++ String.ofList (List.replicate (width - line.length) ' ') ++ " "

/-- One line of a row. -/
def rowLine (widths : List Nat) (row : List (List String)) (n : Nat) : String :=
  let cells := (widths.zip row).map fun entry => pad entry.1 (entry.2.getD n "")
  "│" ++ "┆".intercalate cells ++ "│"

/-- A row, which is as high as its highest cell. -/
def rowLines (widths : List Nat) (row : List (List String)) : List String :=
  (List.range ((row.map List.length).foldl max 0)).map (rowLine widths row)

/-- A table of a row of titles and rows below it. -/
def draw (titles : List String) (rows : Grid) : List String :=
  let head := titles.map fun title => [title]
  let ws := widths (head :: rows)
  let body := (rows.map (rowLines ws)).intersperse [rule '╌' "├" "┼" "┤" ws]
  rule '─' "┌" "┬" "┐" ws :: (rowLines ws head ++
    rule '═' "╞" "╪" "╡" ws :: (body.flatten ++ [rule '─' "└" "┴" "┘" ws]))

end Grid

/-- The options of an algorithm with their kinds and defaults, a line each. -/
def Descriptor.optionLines (d : Descriptor) : List String :=
  if d.options.isEmpty then ["-"]
  else d.options.map fun o =>
    d.name ++ "." ++ o.key ++ ": " ++ o.kind.label ++ " = " ++ o.default

/-- An algorithm's row. -/
def Descriptor.row (d : Descriptor) : List (List String) :=
  [[d.name], [d.category.label], Text.split '\n' d.summary, d.optionLines]

/-- The algorithms of a catalog, in the order of their names. -/
def Catalog.table (c : Catalog) : String :=
  "\n".intercalate <|
    Grid.draw ["Algorithm", "Category", "Description", "Options"]
      (c.entries.map fun entry => entry.2.row)

end SurfaceDrift
