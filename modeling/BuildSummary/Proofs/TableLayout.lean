import Mathlib.Algebra.Ring.Nat
import Mathlib.Data.List.Forall2
import BuildSummary.Proofs.TableWidth

/-!
# How a table is laid out

A table is read back line by line. Between two borders stand the lines of one row, as many as its
taller cell has and at least one; each shows a line of the label beside a line of the value, both
filled with spaces to the width of their column. A line is never wider than its column, so that the
fill is what is left of the column, and no cell may change how the table is cut into lines. The
lines are equally wide if no line of a cell leaves the terminal inside an escape sequence.

## Main definitions

* `Table.IsRowLine`: a line of the label beside a line of the value
* `Table.ShowsRow`: the lines of a row between borders

## Main results

* `Text.columns_eq_sum_shown`: the columns of a text are those of the characters that are shown
* `Table.splitOn_draw`: the lines of a table are those that are drawn
* `Table.columns_rowLine`: a line of a row is as wide as the borders
* `Table.draw_layout`: the layout of a table
-/

namespace BuildSummary

namespace Text

theorem columnsFrom_eq_sum_shownFrom (mode : Mode) (text : Text) :
    columnsFrom mode text = ((shownFrom mode text).map charColumns).sum := by
  induction text generalizing mode with
  | nil => rfl
  | cons c rest ih =>
    rw [columnsFrom, shownFrom, ih, Mode.columns]
    by_cases h : mode.shows c = true
    · rw [if_pos h, if_pos h, List.map_cons, List.sum_cons]
    · rw [if_neg h, if_neg h, Nat.zero_add]

/-- **The columns of a text** are those of the characters that are shown. -/
theorem columns_eq_sum_shown (text : Text) : columns text = ((shown text).map charColumns).sum :=
  columnsFrom_eq_sum_shownFrom .plain text

end Text

/-- No line of the row leaves the terminal inside an escape sequence. -/
def Row.IsClosed (row : Row) : Prop :=
  ∀ line ∈ Text.lines row.label ++ Text.lines row.value, Text.IsClosed line

namespace Table

open Text (columns IsClosed IsPrintable)

/-! ## One line -/

section Lines

variable {labelWidth valueWidth : Nat} {label value : Text}

/-- The line shows a line of the label beside a line of the value, each filled with spaces up to the
width of its column. -/
def IsRowLine (labelWidth valueWidth : Nat) (label value line : Text) : Prop :=
  ∃ labelFill valueFill, columns label + labelFill = labelWidth ∧
    columns value + valueFill = valueWidth ∧
      line = ("| " : Text) ++ label ++ List.replicate labelFill ' ' ++ (" | " : Text) ++ value ++
        List.replicate valueFill ' ' ++ (" |" : Text)

/-- A line that is no wider than its column is filled up to the width of the column. -/
theorem isRowLine_rowLine (hlabel : columns label ≤ labelWidth)
    (hvalue : columns value ≤ valueWidth) :
    IsRowLine labelWidth valueWidth label value (rowLine labelWidth valueWidth label value) := by
  refine ⟨labelWidth - columns label, valueWidth - columns value, ?_, ?_, ?_⟩
  · exact Nat.add_sub_cancel' hlabel
  · exact Nat.add_sub_cancel' hvalue
  · unfold rowLine padded
    simp only [String.toList, List.cons_append, List.append_assoc, List.nil_append]
    rfl

/-- **A line of a row is as wide as the borders** if neither of its parts leaves the terminal inside
an escape sequence. -/
theorem columns_rowLine (hlabel : IsClosed label) (hlabelWidth : columns label ≤ labelWidth)
    (hvalue : IsClosed value) (hvalueWidth : columns value ≤ valueWidth) :
    columns (rowLine labelWidth valueWidth label value) = labelWidth + valueWidth + decoration := by
  have hbar : IsPrintable ['|'] := by decide
  have hfront := hbar.isClosed.append (isClosed_padded hlabel labelWidth)
  have hmiddle := hfront.append hbar.isClosed
  have hback := hmiddle.append (isClosed_padded hvalue valueWidth)
  calc columns (rowLine labelWidth valueWidth label value)
    _ = columns
        (['|'] ++ padded labelWidth label ++ ['|'] ++ padded valueWidth value ++ ['|']) := by
      unfold rowLine
      simp only [List.append_assoc, List.cons_append, List.nil_append]
    _ = 1 + (labelWidth + 2) + 1 + (valueWidth + 2) + 1 := by
      rw [hback.columns_append, hmiddle.columns_append, hfront.columns_append,
        hbar.isClosed.columns_append, columns_padded hlabel hlabelWidth,
        columns_padded hvalue hvalueWidth, hbar.columns_eq, List.length_singleton]
    _ = labelWidth + valueWidth + decoration := by
      unfold decoration
      omega

end Lines

/-! ## All lines -/

section Rows

variable {rows : List Row} {row : Row}

/-- The lines show the row: there are as many as the taller cell has and at least one, and each
shows the line of the label beside that of the value, where a cell that has no more lines shows an
empty one. -/
structure ShowsRow (labelWidth valueWidth : Nat) (row : Row) (block : List Text) : Prop where
  length_eq : block.length =
    max 1 (max (Text.lines row.label).length (Text.lines row.value).length)
  isRowLine : ∀ (i : Nat) (line : Text), block[i]? = some line →
    IsRowLine labelWidth valueWidth ((Text.lines row.label)[i]?.getD [])
      ((Text.lines row.value)[i]?.getD []) line

theorem showsRow_rowLines (h : row ∈ rows) :
    ShowsRow (width (rows.map (·.label))) (width (rows.map (·.value))) row
      (rowLines (width (rows.map (·.label))) (width (rows.map (·.value))) row) := by
  unfold rowLines
  refine ⟨?_, fun i line hline => ?_⟩
  · rw [List.length_map, List.length_range]
  · rw [List.getElem?_map, Option.map_eq_some_iff] at hline
    obtain ⟨j, hj, rfl⟩ := hline
    obtain ⟨-, rfl⟩ := List.getElem?_eq_some_iff.mp hj
    rw [List.getElem_range]
    exact isRowLine_rowLine (columns_getD_le_width (List.mem_map_of_mem h) i)
      (columns_getD_le_width (List.mem_map_of_mem h) i)

/-- **The lines of a table** are those that are drawn, whatever its cells hold. -/
theorem splitOn_draw (rows : List Row) : (draw rows).splitOn '\n' = drawLines rows := by
  refine List.splitOn_intercalate '\n' (fun line hline => ?_) (List.cons_ne_nil _ _)
  rw [← lines_draw] at hline
  exact Text.not_newline_of_mem_lines hline

/-- The lines are a border and, for each row, the lines that show it and the same border after
them. -/
def LaysOut (labelWidth valueWidth : Nat) (rows : List Row) (ls : List Text) : Prop :=
  ∃ blocks, List.Forall₂ (ShowsRow labelWidth valueWidth) rows blocks ∧
    ls = border labelWidth valueWidth ::
      blocks.flatMap fun block => block ++ [border labelWidth valueWidth]

/-- **The layout of a table.** It is made of borders and of lines that show its rows, no part of
which is wider than its column. If no cell leaves the terminal inside an escape sequence, all lines
are equally wide; only the characters that are shown count for that. -/
theorem draw_layout (rows : List Row) :
    LaysOut (width (rows.map (·.label))) (width (rows.map (·.value))) rows
        ((draw rows).splitOn '\n') ∧
      ((∀ row ∈ rows, row.IsClosed) → ∀ line ∈ (draw rows).splitOn '\n',
        columns line = width (rows.map (·.label)) + width (rows.map (·.value)) + 7) ∧
      ∀ text, columns text = ((Text.shown text).map Text.charColumns).sum := by
  rw [splitOn_draw]
  refine ⟨?_, fun hclosed line hline => ?_, Text.columns_eq_sum_shown⟩
  · refine ⟨rows.map (rowLines (width (rows.map (·.label))) (width (rows.map (·.value)))), ?_, ?_⟩
    · rw [List.forall₂_map_right_iff, List.forall₂_same]
      exact fun row hrow => showsRow_rowLines hrow
    · rw [drawLines, List.flatMap_map]
  · rcases mem_drawLines hline with rfl | ⟨row, hrow, i, rfl⟩
    · exact columns_border _ _
    · obtain ⟨hlabel, hvalue⟩ := List.forall_mem_append.mp (hclosed row hrow)
      have hend {cell : Text} (h : ∀ line ∈ Text.lines cell, IsClosed line) :
          IsClosed ((Text.lines cell)[i]?.getD []) := getD_lines (motive := IsClosed) rfl h i
      exact columns_rowLine (hend hlabel) (columns_getD_le_width (List.mem_map_of_mem hrow) i)
        (hend hvalue) (columns_getD_le_width (List.mem_map_of_mem hrow) i)

/-- A red value of two lines beside a label that is two columns wide. -/
theorem draw_layout_colored :
    ∃ row : Row, row.IsClosed ∧ ∃ block, ShowsRow 2 3 row block ∧ block.length = 2 ∧
      (draw [row]).splitOn '\n' = border 2 3 :: block ++ [border 2 3] ∧
      ∀ line ∈ (draw [row]).splitOn '\n', columns line = 12 := by
  let row : Row := ⟨"\u6f22", "\x1b[31mred\x1b[0m\r\nb\u0301"⟩
  have hclosed : row.IsClosed := by
    unfold Row.IsClosed
    decide
  have hlabels : width ([row].map (·.label)) = 2 := by decide +kernel
  have hvalues : width ([row].map (·.value)) = 3 := by decide +kernel
  obtain ⟨hlayout, hcolumns, -⟩ := draw_layout [row]
  rw [hlabels, hvalues] at hlayout hcolumns
  obtain ⟨blocks, hblocks, hlines⟩ := hlayout
  obtain ⟨block, blocks, hshows, hnil, rfl⟩ := List.forall₂_cons_left_iff.mp hblocks
  obtain rfl := List.forall₂_nil_left_iff.mp hnil
  refine ⟨row, hclosed, block, hshows, hshows.length_eq.trans (by decide), ?_, ?_⟩
  · rw [hlines, List.flatMap_singleton, List.cons_append]
  · exact hcolumns (List.forall_mem_singleton.mpr hclosed)

end Rows

end Table

end BuildSummary
