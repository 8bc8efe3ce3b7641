import BuildSummary.Proofs.CheapestLines
import BuildSummary.Proofs.Fragments
import BuildSummary.Proofs.SameFiles

/-!
# Wrapping loses nothing but spaces

The lines of a wrapped text are its fragments without the spaces at the ends of lines, and newlines
are where its lines end. So what a text has besides spaces and newlines, its ink, stays as it is:
no character is dropped, added, doubled or moved, in whatever room. In the table of a build that is
so of the changed files, and wrapping them changes no other cell.

## Main definitions

* `Text.ink`: a text without its spaces and newlines

## Main results

* `Wrap.flatMap_ink_wrapParagraph`, `Wrap.flatMap_ink_wrap`: wrapping keeps the ink
* `Report.ink_changedFiles`: the table of a build shows all changed files and wraps no other cell
-/

namespace BuildSummary

/-! ## Ink -/

namespace Text

/-- The text without its spaces and newlines. -/
def ink (text : Text) : Text :=
  text.filter fun c => c ≠ ' ' && c ≠ '\n'

@[simp] theorem ink_nil : ink [] = [] := rfl

@[simp] theorem ink_append (a b : Text) : ink (a ++ b) = ink a ++ ink b :=
  List.filter_append a b

@[simp] theorem ink_newline_cons (text : Text) : ink ('\n' :: text) = ink text := rfl

@[simp] theorem ink_replicate_space (n : Nat) : ink (List.replicate n ' ') = [] := by
  rw [ink, List.filter_replicate_of_neg (by decide)]

theorem ink_flatMap {α : Type} (list : List α) (f : α → Text) :
    ink (list.flatMap f) = list.flatMap fun a => ink (f a) :=
  List.filter_flatMap

/-- Newlines between texts leave no ink. -/
theorem ink_join_newline (texts : List Text) : ink (join ['\n'] texts) = texts.flatMap ink := by
  induction texts with
  | nil => rfl
  | cons text rest ih =>
    cases rest with
    | nil => rw [join_singleton, List.flatMap_singleton]
    | cons next rest =>
      rw [join_cons_cons, ink_append, List.singleton_append, ink_newline_cons, ih]
      rfl

end Text

/-! ## Wrapping -/

namespace Wrap

open Text (ink join)

theorem Fragment.ink_full (f : Fragment) : ink f.full = ink f.text := by
  simp [full]

/-- A line shows the ink of its fragments. -/
theorem ink_lineText (line : List Fragment) :
    ink (lineText line) = ink (line.flatMap Fragment.full) := by
  induction line with
  | nil => rfl
  | cons f rest ih =>
    cases rest with
    | nil => rw [lineText, List.flatMap_singleton, f.ink_full]
    | cons next rest =>
      calc ink (lineText (f :: next :: rest))
        _ = ink f.full ++ ink (lineText (next :: rest)) := Text.ink_append _ _
        _ = ink ((f :: next :: rest).flatMap Fragment.full) := by
          rw [ih, ← Text.ink_append, ← List.flatMap_cons]

/-- However fragments are cut into lines, the lines show their ink. -/
theorem IsCut.flatMap_ink {fragments : List Fragment} {lines : List (List Fragment)}
    (h : IsCut fragments lines) :
    (lines.map lineText).flatMap ink = ink (fragments.flatMap Fragment.full) := by
  rw [← h.flatten_eq, ← List.flatMap_id, List.flatMap_assoc, Text.ink_flatMap, List.flatMap_map]
  exact List.flatMap_congr fun line _ => ink_lineText line

/-- **Wrapping a paragraph keeps its ink.** -/
theorem flatMap_ink_wrapParagraph (room : Nat) (paragraph : Text) :
    (wrapParagraph room paragraph).flatMap ink = ink paragraph := by
  unfold wrapParagraph
  split
  · rw [List.flatMap_singleton, ← Fragment.ink_full, Fragment.full_ofText]
  · have hink := (isCheapest_cheapest room (fragments room paragraph)).flatMap_ink
    rw [flatMap_full_fragments] at hink
    rw [← hink]
    split
    · rename_i hnil
      rw [hnil]
      rfl
    · rfl

/-- **Wrapping keeps the ink**, of any text in any room. -/
theorem flatMap_ink_wrap (room : Nat) (text : Text) : (wrap room text).flatMap ink = ink text := by
  unfold wrap
  rw [List.flatMap_assoc]
  simp only [flatMap_ink_wrapParagraph]
  rw [← Text.ink_join_newline, join, List.intercalate_splitOn]

end Wrap

/-! ## The changed files -/

namespace Report

open Text (ink join)

variable {style : TableStyle} {policy : Policy} {record : BuildRecord} {report : Report}

/-- Only the second row shows the changed files. -/
theorem getElem?_buildRows (policy : Policy) (record : BuildRecord) (changedFiles : Text)
    (i : Nat) :
    (buildRows policy record changedFiles)[i]? =
      if i = 1 then some ⟨[], changedFiles⟩ else (buildRows policy record [])[i]? := by
  rcases i with _ | _ | i <;> rfl

/-- **The table of a build shows all changed files**, whatever room there is for them: but for
spaces and newlines their cell is the list of them, and no other cell depends on them. -/
theorem ink_changedFiles (h : ofRecord style policy record = .ok report) :
    report.build.length = 18 ∧
      (∃ cell, report.build[1]? = some ⟨[], cell⟩ ∧
        ink cell = ink (join ", " record.changedFiles)) ∧
      ∀ i, i ≠ 1 → report.build[i]? = (buildRows policy record [])[i]? := by
  obtain ⟨-, rfl⟩ := ofRecord_eq_ok_iff.mp h
  refine ⟨rfl, ⟨_, rfl, ?_⟩, fun i hi => ?_⟩
  · rw [changedFilesText, Text.ink_join_newline, Wrap.flatMap_ink_wrap]
  · exact (getElem?_buildRows policy record _ i).trans (if_neg hi)

/-- A file whose name is wider than its column is cut without a hyphen. -/
theorem ink_changedFiles_cut :
    ∃ record report cell, record.changedFiles = [("connector_base.h" : Text), "a b.py"] ∧
      ofRecord (.bordered minWidth) {} record = .ok report ∧
      report.build[1]? = some ⟨[], cell⟩ ∧ ink cell = ("connector_base.h,ab.py" : Text) ∧
      cell = ("connector_b\nase.h, a\nb.py" : Text) := by
  let record : BuildRecord := { changedFiles := ["connector_base.h", "a b.py"] }
  have hreport : ofRecord (.bordered minWidth) {} record =
      .ok (assemble (.bordered minWidth) {} record) := rfl
  obtain ⟨-, ⟨cell, hcell, hink⟩, -⟩ := ink_changedFiles hreport
  refine ⟨record, _, cell, rfl, hreport, hcell, hink, ?_⟩
  have hrow : (⟨[], changedFilesText (.bordered minWidth) {} record⟩ : Row) = ⟨[], cell⟩ :=
    Option.some.inj hcell
  rw [← (Row.mk.inj hrow).2]
  decide +kernel

end Report

end BuildSummary
