/-!
# Boxed tables

A table has a header and rows of cells. Columns are as wide as their longest
cell, cells are aligned to the left with one space on either side, and lines
separate header and rows.
-/

namespace ServoLink

/-- A table of text. -/
structure Table where
  /-- The names of the columns. -/
  header : List String
  /-- The rows, each with a cell per column. -/
  rows : List (List String) := []
  deriving DecidableEq, Inhabited

namespace Table

/-- The widths of the columns: the longest cell of each. -/
def widths (t : Table) : List Nat :=
  t.rows.foldl (fun ws row => List.zipWith (fun w cell => max w cell.length) ws row)
    (t.header.map String.length)

/-- A character repeated. -/
def repeated (c : Char) (n : Nat) : String :=
  String.ofList (List.replicate n c)

/-- A line across the table. -/
def rule (ws : List Nat) (left line cross right : String) (fill : Char) : String :=
  left ++ cross.intercalate (ws.map fun w => line ++ repeated fill w ++ line) ++ right

/-- The cells of one row, filled up to the widths of their columns. -/
def line (ws : List Nat) (cells : List String) : String :=
  "│ " ++ " ┆ ".intercalate
    (List.zipWith (fun w cell => cell ++ repeated ' ' (w - cell.length)) ws cells) ++ " │"

/-- The lines of a table. -/
def lines (t : Table) : List String :=
  let ws := t.widths
  [rule ws "┌" "─" "┬" "┐" '─', line ws t.header, rule ws "╞" "═" "╪" "╡" '═']
    ++ (t.rows.map (line ws)).intersperse (rule ws "├" "╌" "┼" "┤" '╌')
    ++ [rule ws "└" "─" "┴" "┘" '─']

/-- The text of a table. -/
def render (t : Table) : String :=
  "\n".intercalate t.lines

end Table

end ServoLink
