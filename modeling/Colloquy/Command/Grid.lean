import Colloquy.Text.Columns
import Colloquy.Text.Split

/-!
# Grids

Rows of cells drawn with lines around them. Every column is as wide as its widest line, measured
in the columns of a terminal and not in characters, and has a blank on either side. A cell with
several lines makes its row as high as it needs. A double line stands below the heading and a
dotted one between rows.

## Main definitions

* `Grid.Rule`: The characters of a horizontal line.
* `Grid.cellLines`: The lines of a cell.
* `Grid.draw`: A heading and rows as text.
-/

namespace Colloquy

namespace Grid

/-- The characters of a horizontal line: its left end, its stroke, its crossings and its right
    end. -/
structure Rule where
  left : Char
  stroke : Char
  crossing : Char
  right : Char

/-- The line above everything. -/
def top : Rule := ⟨'┌', '─', '┬', '┐'⟩

/-- The line below the heading. -/
def heading : Rule := ⟨'╞', '═', '╪', '╡'⟩

/-- The line between rows. -/
def between : Rule := ⟨'├', '╌', '┼', '┤'⟩

/-- The line below everything. -/
def bottom : Rule := ⟨'└', '─', '┴', '┘'⟩

/-- A horizontal line over columns of given widths. -/
def Rule.draw (rule : Rule) (widths : List Nat) : String :=
  let strokes := widths.map fun width => List.replicate (width + 2) rule.stroke
  String.ofList (rule.left :: List.intercalate [rule.crossing] strokes ++ [rule.right])

/-- The lines of a cell. -/
def cellLines (cell : String) : List (List Char) := splitAt '\n' cell.toList

/-- The width of a cell. -/
def cellWidth (cell : String) : Nat :=
  ((cellLines cell).map columns).foldl max 0

/-- The widths of columns. -/
def widths (rows : List (List String)) : List Nat :=
  let count := (rows.map List.length).foldl max 0
  (List.range count).map fun index =>
    (rows.map fun row => cellWidth (row.getD index "")).foldl max 0

/-- A line of a cell, filled up to the width of its column. -/
def padded (line : List Char) (width : Nat) : List Char :=
  ' ' :: line ++ List.replicate (width - columns line) ' ' ++ [' ']

/-- One line of a row, from one line of each of its cells. -/
def rowLine (widths : List Nat) (lines : List (List Char)) : String :=
  let cells := widths.zipIdx.map fun (width, column) => padded (lines.getD column []) width
  String.ofList ('│' :: List.intercalate ['┆'] cells ++ ['│'])

/-- So many lines of a row, from the lines of its cells. A cell that runs out of lines is blank from
    there on. -/
def rowLinesFrom (widths : List Nat) : Nat → List (List (List Char)) → List String
  | 0, _ => []
  | height + 1, cells =>
    rowLine widths (cells.map (·.headD [])) :: rowLinesFrom widths height (cells.map List.tail)

/-- The lines of a row. -/
def rowLines (widths : List Nat) (row : List String) : List String :=
  let cells := row.map cellLines
  rowLinesFrom widths ((cells.map List.length).foldl max 0) cells

/-- A heading and rows as text. -/
def draw (head : List String) (rows : List (List String)) : String :=
  let widths := widths (head :: rows)
  let body := List.intercalate [between.draw widths] (rows.map (rowLines widths))
  "\n".intercalate
    (top.draw widths :: rowLines widths head ++ heading.draw widths :: body ++ [bottom.draw widths])

end Grid

end Colloquy
