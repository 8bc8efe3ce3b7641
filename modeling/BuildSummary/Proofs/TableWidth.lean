import Mathlib.Data.List.Basic
import BuildSummary.Table

/-!
# How wide a table is

A table is as wide as its borders, whatever its cells hold. The labels may not leave the terminal
inside an escape sequence, or the border between the columns would not be seen; a value that does so
swallows the spaces after it and only makes its line shorter.

## Main definitions

* `Text.IsClosed`: a text after which a terminal is outside escape sequences
* `Table.Fits`: every line of a table fits in a terminal

## Main results

* `Table.width_le_iff`: a column is as wide as its widest line
* `Table.lines_draw`: the lines of a table are those that are drawn
* `Table.fits_iff`: a table fits exactly if its columns and the decoration do
-/

namespace BuildSummary

namespace Text

/-! ## Printable texts -/

/-- A text after which a terminal is outside escape sequences. -/
def IsClosed (text : Text) : Prop :=
  modeAfter .plain text = .plain

instance : DecidablePred IsClosed := fun text =>
  inferInstanceAs (Decidable (modeAfter .plain text = .plain))

/-- A text of ASCII characters that a terminal shows. -/
def IsPrintable (text : Text) : Prop :=
  ∀ c ∈ text, 0x20 ≤ c.toNat ∧ c.toNat < 0x7F

-- by the characters of the text, not by all characters that there are
instance : DecidablePred IsPrintable := fun text =>
  List.decidableBAll (fun c : Char => 0x20 ≤ c.toNat ∧ c.toNat < 0x7F) text

theorem IsPrintable.append {a b : Text} (ha : IsPrintable a) (hb : IsPrintable b) :
    IsPrintable (a ++ b) :=
  List.forall_mem_append.mpr ⟨ha, hb⟩

theorem isPrintable_replicate (n : Nat) {c : Char} (h : IsPrintable [c]) :
    IsPrintable (List.replicate n c) := by
  intro d hd
  rw [List.eq_of_mem_replicate hd]
  exact h c List.mem_cons_self

theorem charColumns_eq_one {c : Char} (h : 0x20 ≤ c.toNat ∧ c.toNat < 0x7F) :
    charColumns c = 1 := by
  unfold charColumns
  rw [if_neg (Nat.not_lt.mpr h.1), if_pos h.2]

theorem Mode.columns_le_one (mode : Mode) {c : Char} (h : 0x20 ≤ c.toNat ∧ c.toNat < 0x7F) :
    mode.columns c ≤ 1 := by
  unfold columns
  rw [charColumns_eq_one h]
  split
  · exact Nat.le_refl 1
  · exact Nat.zero_le 1

/-- No printable character begins an escape sequence. -/
theorem ne_escape {c : Char} (h : 0x20 ≤ c.toNat) : c ≠ '\x1b' := by
  rintro rfl
  revert h
  decide

/-- A printable text never takes more columns than it has characters, even inside an escape
sequence. -/
theorem columnsFrom_le_length (mode : Mode) {text : Text} (h : IsPrintable text) :
    columnsFrom mode text ≤ text.length := by
  induction text generalizing mode with
  | nil => exact Nat.le_refl 0
  | cons c rest ih =>
    obtain ⟨hc, hrest⟩ := List.forall_mem_cons.mp h
    rw [columnsFrom, List.length_cons, Nat.add_comm]
    exact Nat.add_le_add (ih _ hrest) (mode.columns_le_one hc)

theorem IsPrintable.isClosed {text : Text} (h : IsPrintable text) : IsClosed text := by
  induction text with
  | nil => rfl
  | cons c rest ih =>
    obtain ⟨hc, hrest⟩ := List.forall_mem_cons.mp h
    have hnext : Mode.plain.next c = .plain := if_neg (ne_escape hc.1)
    show modeAfter (Mode.plain.next c) rest = .plain
    rw [hnext]
    exact ih hrest

/-- A printable text takes as many columns as it has characters. -/
theorem IsPrintable.columns_eq {text : Text} (h : IsPrintable text) :
    columns text = text.length := by
  induction text with
  | nil => rfl
  | cons c rest ih =>
    obtain ⟨hc, hrest⟩ := List.forall_mem_cons.mp h
    have hnext : Mode.plain.next c = .plain := if_neg (ne_escape hc.1)
    have hcolumns : Mode.plain.columns c = 1 := by
      have hshows : Mode.plain.shows c = true := by simp [Mode.shows, ne_escape hc.1]
      rw [Mode.columns, if_pos hshows, charColumns_eq_one hc]
    show Mode.plain.columns c + columnsFrom (Mode.plain.next c) rest = rest.length + 1
    rw [hnext, hcolumns, Nat.add_comm]
    exact congrArg (· + 1) (ih hrest)

/-! ## Closed texts -/

theorem modeAfter_append (mode : Mode) (a b : Text) :
    modeAfter mode (a ++ b) = modeAfter (modeAfter mode a) b :=
  List.foldl_append

theorem IsClosed.append {a b : Text} (ha : IsClosed a) (hb : IsClosed b) : IsClosed (a ++ b) := by
  unfold IsClosed
  rw [modeAfter_append, ha, hb]

/-- What follows a closed text is shown as on its own. -/
theorem IsClosed.columns_append {a : Text} (ha : IsClosed a) (b : Text) :
    columns (a ++ b) = columns a + columns b := by
  unfold columns
  rw [columnsFrom_append, ha]

end Text

namespace Table

open Text (columns IsClosed IsPrintable)

/-! ## The widest line of a column -/

theorem foldl_max_le_iff {α : Type} (f : α → Nat) (list : List α) (first bound : Nat) :
    list.foldl (fun width a => Nat.max width (f a)) first ≤ bound ↔
      first ≤ bound ∧ ∀ a ∈ list, f a ≤ bound := by
  induction list generalizing first with
  | nil => simp
  | cons a rest ih =>
    rw [List.foldl_cons, ih, List.forall_mem_cons, ← and_assoc]
    exact and_congr_left' Nat.max_le

theorem cellWidth_le_iff {cell : Text} {bound : Nat} :
    cellWidth cell ≤ bound ↔ ∀ line ∈ Text.lines cell, columns line ≤ bound :=
  (foldl_max_le_iff columns _ 0 bound).trans (and_iff_right (Nat.zero_le bound))

/-- **A column is as wide as its widest line.** -/
theorem width_le_iff {cells : List Text} {bound : Nat} :
    width cells ≤ bound ↔ ∀ cell ∈ cells, ∀ line ∈ Text.lines cell, columns line ≤ bound := by
  have hcells := (foldl_max_le_iff cellWidth cells 0 bound).trans
    (and_iff_right (Nat.zero_le bound))
  simp only [cellWidth_le_iff] at hcells
  exact hcells

theorem columns_le_width {cells : List Text} {cell line : Text} (hcell : cell ∈ cells)
    (hline : line ∈ Text.lines cell) : columns line ≤ width cells :=
  width_le_iff.mp (Nat.le_refl _) cell hcell line hline

/-! ## Drawn lines -/

section Lines

variable {labelWidth valueWidth : Nat} {label value : Text}

theorem isPrintable_border (labelWidth valueWidth : Nat) :
    IsPrintable (border labelWidth valueWidth) := by
  have hplus : IsPrintable ['+'] := by decide
  have hdashes (n : Nat) : IsPrintable (List.replicate n '-') :=
    Text.isPrintable_replicate n (by decide)
  exact ((hplus.append (hdashes _)).append (hplus.append (hdashes _))).append hplus

theorem columns_border (labelWidth valueWidth : Nat) :
    columns (border labelWidth valueWidth) = labelWidth + valueWidth + decoration := by
  rw [(isPrintable_border labelWidth valueWidth).columns_eq]
  unfold border decoration
  simp only [List.cons_append, List.length_cons, List.length_append, List.length_replicate,
    List.length_nil]
  omega

theorem isClosed_padded (h : IsClosed label) (labelWidth : Nat) :
    IsClosed (padded labelWidth label) := by
  have hspace : IsPrintable [' '] := by decide
  have hfill := (Text.isPrintable_replicate (labelWidth - columns label) hspace).isClosed
  exact ((hspace.isClosed.append h).append hfill).append hspace.isClosed

/-- A line is filled to the width of its column. -/
theorem columns_padded (hclosed : IsClosed label) (h : columns label ≤ labelWidth) :
    columns (padded labelWidth label) = labelWidth + 2 := by
  have hspace : IsPrintable [' '] := by decide
  have hfill := Text.isPrintable_replicate (labelWidth - columns label) hspace
  have hfront := hspace.isClosed.append hclosed
  calc columns (padded labelWidth label)
    _ = columns [' '] + columns label + columns (List.replicate (labelWidth - columns label) ' ')
        + columns [' '] := by
      rw [← hspace.isClosed.columns_append, ← hfront.columns_append,
        ← (hfront.append hfill.isClosed).columns_append]
      rfl
    _ = labelWidth + 2 := by
      rw [hspace.columns_eq, hfill.columns_eq, List.length_replicate, List.length_singleton]
      omega

/-- No line of a row is wider than the borders. A value may leave the terminal inside an escape
sequence, which then swallows what follows it. -/
theorem columns_rowLine_le (hclosed : IsClosed label) (hlabel : columns label ≤ labelWidth)
    (hvalue : columns value ≤ valueWidth) :
    columns (rowLine labelWidth valueWidth label value) ≤ labelWidth + valueWidth + decoration := by
  have hbar : IsPrintable ['|'] := by decide
  have hedge : IsPrintable ['|', ' '] := by decide
  let back : Text := List.replicate (valueWidth - columns value) ' ' ++ [' '] ++ ['|']
  have hback : IsPrintable back :=
    ((Text.isPrintable_replicate _ (by decide)).append (by decide)).append hbar
  have hfront := hbar.isClosed.append (isClosed_padded hclosed labelWidth)
  calc columns (rowLine labelWidth valueWidth label value)
    _ = columns ((['|'] ++ padded labelWidth label ++ ['|', ' ']) ++ (value ++ back)) := by
      unfold rowLine back
      rw [padded.eq_def valueWidth]
      simp only [List.append_assoc, List.cons_append, List.nil_append]
    _ = labelWidth + 5 + columns (value ++ back) := by
      rw [(hfront.append hedge.isClosed).columns_append, hfront.columns_append,
        hbar.isClosed.columns_append, columns_padded hclosed hlabel, hbar.columns_eq,
        hedge.columns_eq]
      simp only [List.length_cons, List.length_nil]
      omega
    _ ≤ labelWidth + 5 + (columns value + back.length) := by
      refine Nat.add_le_add_left ?_ _
      unfold columns
      rw [Text.columnsFrom_append]
      exact Nat.add_le_add_left (Text.columnsFrom_le_length _ hback) _
    _ = labelWidth + valueWidth + decoration := by
      simp only [back, decoration, List.length_append, List.length_replicate,
        List.length_singleton]
      omega

theorem isLine_border (labelWidth valueWidth : Nat) :
    Text.IsLine (border labelWidth valueWidth) := by
  constructor
  · intro h
    exact absurd (isPrintable_border _ _ _ h).1 (by decide)
  · unfold border
    rw [List.getLast?_append, List.getLast?_singleton, Option.some_or]
    decide

theorem not_newline_padded {line : Text} (h : '\n' ∉ line) (width : Nat) :
    '\n' ∉ padded width line := by
  unfold padded
  simp [h]

theorem isLine_rowLine (hlabel : '\n' ∉ label) (hvalue : '\n' ∉ value)
    (labelWidth valueWidth : Nat) :
    Text.IsLine (rowLine labelWidth valueWidth label value) := by
  constructor
  · unfold rowLine
    simp [not_newline_padded hlabel, not_newline_padded hvalue]
  · unfold rowLine
    rw [List.getLast?_append, List.getLast?_singleton, Option.some_or]
    decide

end Lines

/-! ## The whole table -/

section Rows

variable {rows : List Row} {terminal : Nat}

/-- What holds of an empty line and of the lines of a cell holds of what the cell gives to each line
of its row. -/
theorem getD_lines {motive : Text → Prop} {cell : Text} (nil : motive [])
    (h : ∀ line ∈ Text.lines cell, motive line) (i : Nat) :
    motive ((Text.lines cell)[i]?.getD []) := by
  cases hline : (Text.lines cell)[i]? with
  | none => exact nil
  | some line => exact h line (List.mem_of_getElem? hline)

/-- No line of a cell is wider than the column of the cell. -/
theorem columns_getD_le_width {cells : List Text} {cell : Text} (h : cell ∈ cells) (i : Nat) :
    columns ((Text.lines cell)[i]?.getD []) ≤ width cells :=
  getD_lines (Nat.zero_le _) (fun _ => columns_le_width h) i

/-- A drawn line is a border, or a line of a row: one of its label beside one of its value, where a
cell that has no more lines gives an empty one. -/
theorem mem_drawLines {line : Text} (h : line ∈ drawLines rows) :
    line = border (width (rows.map (·.label))) (width (rows.map (·.value))) ∨
      ∃ row ∈ rows, ∃ i : Nat, line =
        rowLine (width (rows.map (·.label))) (width (rows.map (·.value)))
          ((Text.lines row.label)[i]?.getD []) ((Text.lines row.value)[i]?.getD []) := by
  rcases List.mem_cons.mp h with rfl | h
  · exact .inl rfl
  · obtain ⟨row, hrow, h⟩ := List.mem_flatMap.mp h
    rcases List.mem_append.mp h with h | h
    · obtain ⟨i, -, rfl⟩ := List.mem_map.mp h
      exact .inr ⟨row, hrow, i, rfl⟩
    · exact .inl (List.mem_singleton.mp h)

/-- The lines of a table end with a border. -/
theorem getLast?_drawLines (rows : List Row) :
    (drawLines rows).getLast? =
      some (border (width (rows.map (·.label))) (width (rows.map (·.value)))) := by
  unfold drawLines
  generalize width (rows.map (·.label)) = labelWidth
  generalize width (rows.map (·.value)) = valueWidth
  rcases List.eq_nil_or_concat rows with rfl | ⟨front, last, rfl⟩
  · rfl
  · simp only [List.concat_eq_append, List.flatMap_append, List.flatMap_singleton]
    rw [← List.cons_append, ← List.append_assoc, List.getLast?_append]
    rfl

/-- **The lines of a table** are those that are drawn. -/
theorem lines_draw (rows : List Row) : Text.lines (draw rows) = drawLines rows := by
  refine Text.lines_join ?_ ?_
  · intro line hline
    have hnewline (cell : Text) (i : Nat) : '\n' ∉ (Text.lines cell)[i]?.getD [] :=
      getD_lines List.not_mem_nil (fun _ hmem => Text.not_newline_of_mem_lines hmem) i
    rcases mem_drawLines hline with rfl | ⟨row, -, i, rfl⟩
    · exact isLine_border _ _
    · exact isLine_rowLine (hnewline row.label i) (hnewline row.value i) _ _
  · rw [getLast?_drawLines]
    intro h
    cases Option.some.inj h

/-- Every line of the table fits in a terminal of the given width. -/
def Fits (terminal : Nat) (rows : List Row) : Prop :=
  ∀ line ∈ Text.lines (draw rows), columns line ≤ terminal

/-- **A table fits** exactly if its columns and the decoration do. -/
theorem fits_iff
    (hclosed : ∀ label ∈ rows.map (·.label), ∀ line ∈ Text.lines label, IsClosed line) :
    Fits terminal rows ↔
      width (rows.map (·.label)) + width (rows.map (·.value)) + decoration ≤ terminal := by
  unfold Fits
  rw [lines_draw, ← columns_border]
  constructor
  · intro h
    exact h _ List.mem_cons_self
  · intro hborder line hline
    refine Nat.le_trans ?_ hborder
    rcases mem_drawLines hline with rfl | ⟨row, hrow, i, rfl⟩
    · exact Nat.le_refl _
    · rw [columns_border]
      have hlabel := List.mem_map_of_mem (f := Row.label) hrow
      have hvalue := List.mem_map_of_mem (f := Row.value) hrow
      have hend := getD_lines (motive := IsClosed) rfl (hclosed row.label hlabel) i
      exact columns_rowLine_le hend (columns_getD_le_width hlabel i)
        (columns_getD_le_width hvalue i)

end Rows

end Table

end BuildSummary
