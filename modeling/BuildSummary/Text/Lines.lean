import BuildSummary.Text.Basic

/-!
# Lines

A line ends at a newline or at a carriage return directly before a newline. What follows the last
newline is a line of its own unless it is empty, and keeps a carriage return at its end.

## Main definitions

* `Text.lines`, `Text.unlines`: the lines of a text, and lines as a text
* `Text.IsLine`: a text that is a line as it stands

## Main results

* `Text.lines_append_newline`: a newline ends a line
* `Text.cut_induction`: induction on the pieces between separators
* `Text.lines_unlines`, `Text.lines_unlines_of_isLine`, `Text.lines_join`: reading undoes writing
-/

namespace BuildSummary.Text

/-- The text without one carriage return at its end. -/
def dropReturn (text : Text) : Text :=
  if text.getLast? = some '\r' then text.dropLast else text

/-- The lines of a text, without their endings. -/
def lines (text : Text) : List Text :=
  let pieces := text.splitOn '\n'
  pieces.dropLast.map dropReturn ++ pieces.getLast?.toList.filter (!·.isEmpty)

/-- The lines written out again, each with a newline after it. -/
def unlines (lines : List Text) : Text :=
  lines.flatMap (· ++ ['\n'])

/-- A text that is a line as it stands: it holds no newline and does not end with a carriage
return. -/
def IsLine (text : Text) : Prop :=
  '\n' ∉ text ∧ text.getLast? ≠ some '\r'

instance : DecidablePred IsLine := fun text =>
  inferInstanceAs (Decidable ('\n' ∉ text ∧ text.getLast? ≠ some '\r'))

@[simp] theorem lines_nil : lines [] = [] := by simp [lines]

/-- **Cutting off what comes before a separator.** What holds of a list without the separator, and
of such a list before the separator and a list of which it holds, holds of every list. -/
theorem cut_induction {α : Type} (separator : α) {motive : List α → Prop}
    (last : ∀ piece, separator ∉ piece → motive piece)
    (next : ∀ piece rest, separator ∉ piece → motive rest → motive (piece ++ separator :: rest))
    (list : List α) : motive list := by
  by_cases h : separator ∈ list
  · obtain ⟨piece, rest, heq, hpiece⟩ := List.eq_append_cons_of_mem h
    subst heq
    exact next piece rest hpiece (cut_induction separator last next rest)
  · exact last list h
termination_by list.length

/-- **A newline ends a line.** Everything about `lines` follows from this equation. -/
theorem lines_append_newline {line : Text} (h : '\n' ∉ line) (rest : Text) :
    lines (line ++ '\n' :: rest) = dropReturn line :: lines rest := by
  have hne : rest.splitOn '\n' ≠ [] := List.splitOn_ne_nil '\n' rest
  unfold lines
  rw [List.splitOn_append_cons_self_of_not_mem h]
  obtain ⟨piece, pieces, hp⟩ := List.exists_cons_of_ne_nil hne
  simp [hp, List.getLast?_cons_cons]

/-- A text without a newline is a line as it stands, unless it is empty. -/
theorem lines_of_not_mem {text : Text} (h : '\n' ∉ text) :
    lines text = if text.isEmpty then [] else [text] := by
  unfold lines
  rw [List.splitOn_eq_singleton h]
  cases text <;> simp

/-- No line holds a newline. -/
theorem not_newline_of_mem_lines {line text : Text} (h : line ∈ lines text) : '\n' ∉ line := by
  induction text using cut_induction '\n' with
  | last piece hpiece =>
    rw [lines_of_not_mem hpiece] at h
    split at h
    · cases h
    · rwa [List.mem_singleton.mp h]
  | next piece rest hpiece ih =>
    rw [lines_append_newline hpiece] at h
    rcases List.mem_cons.mp h with rfl | h
    · unfold dropReturn
      split
      · exact fun hmem => hpiece ((List.dropLast_subset piece) hmem)
      · exact hpiece
    · exact ih h

/-- Lines that are written out are read back, but for a carriage return at their end. -/
theorem lines_unlines {ls : List Text} (h : ∀ line ∈ ls, '\n' ∉ line) :
    lines (unlines ls) = ls.map dropReturn := by
  induction ls with
  | nil => rfl
  | cons line rest ih =>
    have hline := lines_append_newline (h line List.mem_cons_self) (unlines rest)
    rw [ih fun l hl => h l (List.mem_cons_of_mem _ hl)] at hline
    simpa [unlines] using hline

/-- **Lines that are written out are read back.** -/
theorem lines_unlines_of_isLine {ls : List Text} (h : ∀ line ∈ ls, IsLine line) :
    lines (unlines ls) = ls := by
  rw [lines_unlines fun line hline => (h line hline).1]
  conv => rhs; rw [← List.map_id ls]
  refine List.map_congr_left fun line hline => ?_
  rw [dropReturn, if_neg (h line hline).2]
  rfl

/-- **Lines that are joined are read back**, unless the last one is empty. -/
theorem lines_join {ls : List Text} (h : ∀ line ∈ ls, IsLine line) (hlast : ls.getLast? ≠ some []) :
    lines (join ['\n'] ls) = ls := by
  induction ls with
  | nil => exact lines_nil
  | cons line rest ih =>
    rw [List.forall_mem_cons] at h
    cases rest with
    | nil =>
      have hne : line ≠ [] := by
        rintro rfl
        exact hlast rfl
      rw [join_singleton, lines_of_not_mem h.1.1, if_neg (by simp [hne])]
    | cons next rest =>
      have hdrop : dropReturn line = line := if_neg h.1.2
      rw [join_cons_cons, List.singleton_append, lines_append_newline h.1.1, hdrop, ih h.2 hlast]

/-- What follows a character that ends no line decides how a line ends. -/
theorem isLine_append_cons {a b : Text} {c : Char} (hc : c ≠ '\n') (hr : c ≠ '\r') :
    IsLine (a ++ c :: b) ↔ '\n' ∉ a ∧ IsLine b := by
  have hlast : (a ++ c :: b).getLast? = some '\r' ↔ b.getLast? = some '\r' := by
    cases b with
    | nil => simp [hr]
    | cons d b => simp [List.getLast?_append, List.getLast?_cons_cons]
  unfold IsLine
  rw [ne_eq, ne_eq, hlast]
  simp [Ne.symm hc, and_assoc]

theorem IsLine.append {a b : Text} (ha : '\n' ∉ a) (hb : IsLine b) (hne : b ≠ []) :
    IsLine (a ++ b) := by
  refine ⟨?_, ?_⟩
  · rw [List.mem_append, not_or]
    exact ⟨ha, hb.1⟩
  · obtain ⟨c, hc⟩ := Option.isSome_iff_exists.mp (List.getLast?_isSome.mpr hne)
    rw [List.getLast?_append, hc, Option.some_or, ← hc]
    exact hb.2

end BuildSummary.Text
