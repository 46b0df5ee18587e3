import DicePool.Text.Columns

/-!
# Text/Table — tables with ruled borders

A table has a header and rows of cells.  A cell has one or more lines, a column is as wide as its widest
line, and lines are centred.  There is a rule above and below the header and below each row.
-/

namespace DicePool.Text.Table

/-- A cell: its lines. -/
abbrev Cell := List (List Char)

/-- The text with blanks instead of tabulators, which lead to the next multiple of eight characters.  The
column counts from the beginning of the line. -/
def expandTabs (column : Nat) : List Char → List Char
  | [] => []
  | '\t' :: rest =>
    let n := 8 - column % 8
    List.replicate n ' ' ++ expandTabs (column + n) rest
  | c :: rest => c :: expandTabs (if c == '\n' || c == '\r' then 0 else column + 1) rest

/-- The cell of a text. -/
def cell (text : String) : Cell :=
  (expandTabs 0 text.toList).splitOn '\n'

/-- The width of a cell. -/
def Cell.width (c : Cell) : Nat :=
  (c.map columns).foldl max 0

/-- Blanks. -/
def blanks (n : Nat) : List Char :=
  List.replicate n ' '

/-- A line centred in a width.  If it cannot be centred exactly, a line of odd width leans to the left
and a line of even width to the right. -/
def centred (width : Nat) (line : List Char) : List Char :=
  let spare := width - columns line
  let left := if columns line % 2 = 1 then spare / 2 else (spare + 1) / 2
  blanks left ++ line ++ blanks (spare - left)

/-- The widths of the columns. -/
def widths (rows : List (List Cell)) : List Nat :=
  rows.foldl (fun ws row => (ws.zip (row.map Cell.width)).map fun (a, b) => max a b)
    ((rows.headD []).map Cell.width)

/-- A rule. -/
def rule (ws : List Nat) : List Char :=
  '+' :: ws.flatMap fun w => List.replicate (w + 2) '-' ++ ['+']

/-- The line of a row at a height. -/
def rowLine (ws : List Nat) (row : List Cell) (i : Nat) : List Char :=
  '|' :: (ws.zip row).flatMap fun (w, c) => ' ' :: centred w (c.getD i []) ++ [' ', '|']

/-- The lines of a row. -/
def rowLines (ws : List Nat) (row : List Cell) : List (List Char) :=
  let height := (row.map List.length).foldl max 0
  (List.range height).map (rowLine ws row)

/-- The lines of a table whose first row is its header. -/
def render (rows : List (List Cell)) : List (List Char) :=
  let ws := widths rows
  rule ws :: rows.flatMap fun row => rowLines ws row ++ [rule ws]

end DicePool.Text.Table
