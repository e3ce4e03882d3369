/-
Tables drawn with box characters, in the form that they have when the output is no terminal. A terminal has a width,
and a table would be fitted to it by breaking the lines of cells; here nothing bounds the width, and no line is broken.

A column is as wide as its widest line, one column of space is left on both sides of it, and cells are filled up on
the right. A cell with newlines takes several lines of its row. A double rule stands below the header, a dashed one
between two rows; with no rows the header's rule is followed by the lower edge.
-/
import DeviceDump.Text.Width

namespace DeviceDump

/-- a header and rows of as many cells -/
structure Table where
  header : List Text
  rows : List (List Text)

namespace Table

/-- the lines of a cell, one more than it has newlines -/
def cellLines (cell : Text) : List Text := cell.splitOnP (· == '\n')

/-- the width of a cell's widest line -/
def cellWidth (cell : Text) : Nat := ((cellLines cell).map Text.width).foldl max 0

/-- the width of every column -/
def widths (t : Table) : List Nat :=
  t.rows.foldl (fun ws row => List.zipWith max ws (row.map cellWidth)) (t.header.map cellWidth)

/-- a horizontal line: its left end, its stroke, its crossings and its right end -/
def rule (left stroke crossing right : Char) (widths : List Nat) : Text :=
  left :: ([crossing].intercalate (widths.map fun w => List.replicate (w + 2) stroke) ++ [right])

/-- a line of a cell with the space around it -/
def padded (width : Nat) (line : Text) : Text :=
  ' ' :: (line ++ List.replicate (width - line.width) ' ' ++ [' '])

/-- one line across all cells of a row -/
def rowLine (widths : List Nat) (cells : List Text) : Text :=
  '│' :: (['┆'].intercalate (List.zipWith padded widths cells) ++ ['│'])

/-- the lines of a row; short cells are filled up with empty lines -/
def rowLines (widths : List Nat) (row : List Text) : List Text :=
  let cells := row.map cellLines
  let height := (cells.map List.length).foldl max 0
  (List.range height).map fun i => rowLine widths (cells.map fun lines => lines.getD i [])

/-- the lines of all rows, with a rule between neighbours -/
def bodyLines (widths : List Nat) : List (List Text) → List Text
  | [] => []
  | [row] => rowLines widths row
  | row :: next :: rest => rowLines widths row ++ rule '├' '╌' '┼' '┤' widths :: bodyLines widths (next :: rest)

/-- the lines of a table -/
def lines (t : Table) : List Text :=
  rule '┌' '─' '┬' '┐' t.widths :: rowLines t.widths t.header ++
    rule '╞' '═' '╪' '╡' t.widths :: bodyLines t.widths t.rows ++ [rule '└' '─' '┴' '┘' t.widths]

end Table

end DeviceDump
