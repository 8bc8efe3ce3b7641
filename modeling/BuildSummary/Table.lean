import BuildSummary.Text.Columns
import BuildSummary.Text.Lines

/-!
# Tables

A table has two columns, labels and values, whose cells may have several lines. It is drawn with
borders around the cells, each column as wide as its widest line.

## Main definitions

* `Row`: a label and a value
* `Table.draw`: the table as text
* `Table.room`: how wide a column may be for the table to fit
* `TableStyle`: any way to draw tables and to tell the room of a column
-/

namespace BuildSummary

/-- A row of a table. Its cells may have several lines. -/
structure Row where
  /-- What the row is about. -/
  label : Text
  /-- What is said of it. -/
  value : Text := []
  deriving DecidableEq

/-- A way to lay out tables. -/
structure TableStyle where
  /-- The table as text, without a newline at its end. -/
  draw : List Row → Text
  /-- How many columns the widest line of a table's column may fill, given the other one. -/
  room : List Row → Nat → Nat

namespace Table

/-- The columns of the widest line of a cell. -/
def cellWidth (cell : Text) : Nat :=
  (Text.lines cell).foldl (fun width line => Nat.max width (Text.columns line)) 0

/-- The columns of the widest of some cells. -/
def width (cells : List Text) : Nat :=
  cells.foldl (fun width cell => Nat.max width (cellWidth cell)) 0

/-- A border of a table whose columns have the given widths. -/
def border (labelWidth valueWidth : Nat) : Text :=
  '+' :: List.replicate (labelWidth + 2) '-' ++ '+' :: List.replicate (valueWidth + 2) '-' ++ ['+']

/-- The line of a cell with a space on both sides and filled to the width of its column. -/
def padded (width : Nat) (line : Text) : Text :=
  ' ' :: line ++ List.replicate (width - Text.columns line) ' ' ++ [' ']

/-- One line of a row. -/
def rowLine (labelWidth valueWidth : Nat) (label value : Text) : Text :=
  '|' :: padded labelWidth label ++ '|' :: padded valueWidth value ++ ['|']

/-- The lines of a row, at least one; the cell that has fewer is filled up with empty lines. -/
def rowLines (labelWidth valueWidth : Nat) (row : Row) : List Text :=
  let labels := Text.lines row.label
  let values := Text.lines row.value
  let height := Nat.max 1 (Nat.max labels.length values.length)
  (List.range height).map fun i =>
    rowLine labelWidth valueWidth (labels[i]?.getD []) (values[i]?.getD [])

/-- The lines of a table: a border, and each row with a border after it. -/
def drawLines (rows : List Row) : List Text :=
  let labelWidth := width (rows.map (·.label))
  let valueWidth := width (rows.map (·.value))
  let border := border labelWidth valueWidth
  border :: rows.flatMap fun row => rowLines labelWidth valueWidth row ++ [border]

/-- The table as text. -/
def draw (rows : List Row) : Text :=
  Text.join ['\n'] (drawLines rows)

/-- What borders and padding take of each line. -/
def decoration : Nat := 7

/-- How many columns are left for the given column of a table in a terminal of the given width, at
least one. The labels are column 0 and the values column 1; for any other column both are taken. -/
def room (terminal : Nat) (rows : List Row) (column : Nat) : Nat :=
  let labels := if column = 0 then 0 else width (rows.map (·.label))
  let values := if column = 1 then 0 else width (rows.map (·.value))
  Nat.max 1 (terminal - (labels + values + decoration))

end Table

/-- Tables with borders for a terminal of the given width. -/
def TableStyle.bordered (terminal : Nat) : TableStyle where
  draw := Table.draw
  room := Table.room terminal

end BuildSummary
