import TapeDuel.Text.Basic

/-!
# Columns

A table is a text whose cells end with a tab. Cells that stand in the same column of
consecutive lines make a block: each is filled up with blanks to the width of the
widest, and two blanks more. The last cell of a line belongs to no column, so a line
with fewer cells ends the blocks it does not reach. A form feed ends a line and all
blocks. Widths count runes.
-/

namespace TapeDuel.Text

/-- The width of a text in runes. -/
def width (t : Text) : Nat :=
  t.runes.length

/-- A text filled up with blanks behind it. -/
def padRight (n : Nat) (t : Text) : Text :=
  t ++ List.replicate (n - t.width) (byte ' ')

/-- A text filled up with blanks before it. -/
def padLeft (n : Nat) (t : Text) : Text :=
  List.replicate (n - t.width) (byte ' ') ++ t

/-- The blanks between two columns. -/
def gutter : Nat := 2

/-- Whether a row reaches its first column, as more than its last cell. -/
def hasColumn (row : List Text) : Bool :=
  1 < row.length

/-- The width of the first column of some rows. -/
def columnWidth (rows : List (List Text)) : Nat :=
  (rows.map fun row => width (row.headD [])).foldl max 0 + gutter

/-- Rows as lines, of which at most the first `columns` cells stand in columns. -/
def setRows : Nat → List (List Text) → List Text
  | 0, rows => rows.map List.flatten
  | columns + 1, rows =>
    (rows.splitBy fun r s => hasColumn r && hasColumn s).flatMap fun block =>
      let behind := setRows columns (block.map List.tail)
      (block.zip behind).map fun (row, rest) =>
        if hasColumn row then padRight (columnWidth block) (row.headD []) ++ rest
        else row.flatten

/-- The cells of a line. -/
def cells (line : Text) : List Text :=
  (line.splitOn (byte '\t')).flatMap fun t => t.splitOn (byte '\x0b')

/-- The lines of a table between two form feeds, set in columns. -/
def setSection (t : Text) : Text :=
  let rows := t.lines.map cells
  intercalate [byte '\n'] (setRows ((rows.map List.length).foldl max 0) rows)

/-- A table set in columns. -/
def setColumns (t : Text) : Text :=
  intercalate [byte '\n'] ((t.splitOn (byte '\x0c')).map setSection)

end TapeDuel.Text
