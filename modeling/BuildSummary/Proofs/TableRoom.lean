import BuildSummary.Proofs.TableWidth

/-!
# The room of a column

The room of a column is told from the other column and the width of the terminal, whatever its own
cells hold. It is neither too wide nor too narrow by one: the table fits in the terminal exactly if
no line of the column is wider than the room. Where the other column leaves none, the room is one
all the same.

## Main definitions

* `Table.cells`: the cells of a column, by its number

## Main results

* `Table.le_room_iff`: what fits in the room of a column
* `Table.width_le_room_iff`: the room of a column and the width of the table
* `Table.room_exact`: the room of a column is exact
-/

namespace BuildSummary

namespace Table

open Text (columns IsClosed)

/-- The cells of a column: the labels are column 0 and the values column 1. -/
def cells (rows : List Row) : Fin 2 → List Text
  | 0 => rows.map (·.label)
  | 1 => rows.map (·.value)

section Room

variable {terminal n : Nat} {rows rows' : List Row} {column : Fin 2}

/-- The width of a table is told by a column and the other one, whichever comes first. -/
theorem width_cells_add_rev (rows : List Row) (column : Fin 2) :
    width (cells rows column) + width (cells rows column.rev) =
      width (rows.map (·.label)) + width (rows.map (·.value)) := by
  match column with
  | 0 => rfl
  | 1 => exact Nat.add_comm _ _

/-- The room of a column is what the other column and the decoration leave of the terminal. -/
theorem room_eq (terminal : Nat) (rows : List Row) (column : Fin 2) :
    room terminal rows column =
      max 1 (terminal - (width (cells rows column.rev) + decoration)) := by
  match column with
  | 0 => exact congrArg (fun other => max 1 (terminal - (other + decoration))) (Nat.zero_add _)
  | 1 => rfl

/-- **What fits in the room of a column** fits in the terminal beside the other column and the
decoration, or it is at most one wide, which is never refused. -/
theorem le_room_iff :
    n ≤ room terminal rows column ↔
      n ≤ 1 ∨ n + width (cells rows column.rev) + decoration ≤ terminal := by
  rw [room_eq]
  omega

/-- **The room of a column and the width of the table.** A table whose other column is the given one
fits in the terminal if its column is no wider than the room, and conversely, unless the column is
at most one wide. -/
theorem width_le_room_iff (hother : cells rows' column.rev = cells rows column.rev)
    (hclosed : ∀ label ∈ cells rows' 0, ∀ line ∈ Text.lines label, IsClosed line) :
    width (cells rows' column) ≤ room terminal rows column ↔
      width (cells rows' column) ≤ 1 ∨ Fits terminal rows' := by
  rw [le_room_iff, ← hother, width_cells_add_rev, fits_iff hclosed]

/-- **The room of a column is exact.** It is told by the other column alone. If that leaves room for
a column beside the decoration, then whatever cells the column is given, the table fits in the
terminal exactly if none of their lines is wider than the room; no label may leave the terminal
inside an escape sequence, while a value may. If the other column leaves no room, the room is
one. -/
theorem room_exact (terminal : Nat) (rows : List Row) (column : Fin 2) :
    (∀ rows', cells rows' column.rev = cells rows column.rev →
        room terminal rows' column = room terminal rows column) ∧
      (width (cells rows column.rev) + 8 ≤ terminal →
        ∀ rows', cells rows' column.rev = cells rows column.rev →
          (∀ label ∈ cells rows' 0, ∀ line ∈ Text.lines label, IsClosed line) →
            (Fits terminal rows' ↔ ∀ cell ∈ cells rows' column, ∀ line ∈ Text.lines cell,
              columns line ≤ room terminal rows column)) ∧
      (terminal < width (cells rows column.rev) + 8 → room terminal rows column = 1) := by
  refine ⟨fun rows' hother => ?_, fun hroom rows' hother hclosed => ?_, fun hnone => ?_⟩
  · rw [room_eq, room_eq, hother]
  · rw [← width_le_iff, width_le_room_iff hother hclosed]
    refine (or_iff_right_of_imp fun hnarrow => ?_).symm
    -- a column that is at most one wide fits, since the other one leaves room for it
    rw [fits_iff hclosed, ← width_cells_add_rev rows' column, hother]
    unfold decoration
    omega
  · rw [room_eq]
    unfold decoration
    omega

/-- Beside a label of ten columns a terminal of twenty has room for three: a red value of three
columns fits and one of four does not. A terminal of seventeen has no room left. -/
theorem room_exact_colored :
    let rows : List Row := [⟨"0123456789", []⟩]
    let red : List Row := [⟨"0123456789", "\x1b[31mred\x1b[0m"⟩]
    let blue : List Row := [⟨"0123456789", "blue"⟩]
    room 20 rows 1 = 3 ∧ Fits 20 red ∧ ¬ Fits 20 blue ∧ room 20 blue 1 = 3 ∧
      room 17 rows 1 = 1 := by
  intro rows red blue
  obtain ⟨hsame, hexact, -⟩ := room_exact 20 rows 1
  obtain ⟨-, -, hnone⟩ := room_exact 17 rows 1
  have hthree : room 20 rows 1 = 3 := by decide
  have hroom : width (cells rows (Fin.rev 1)) + 8 ≤ 20 := by decide
  have hred : Fits 20 red := (hexact hroom red rfl (by decide)).mpr (by decide)
  have hblue : ¬ Fits 20 blue := by
    rw [hexact hroom blue rfl (by decide)]
    decide
  exact ⟨hthree, hred, hblue, (hsame blue rfl).trans hthree, hnone (by decide)⟩

end Room

end Table

end BuildSummary
