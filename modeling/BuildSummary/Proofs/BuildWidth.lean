import BuildSummary.CommandLine
import BuildSummary.Proofs.TableWidth
import BuildSummary.Proofs.Totals

/-!
# How wide the table of the build is

Of all cells of the table of the build only the changed files are wrapped. The others stay on their
lines however narrow the terminal is: a key with its figure takes up to 33 columns and one for each
digit, the labels take 22 and the decoration 7. So the table fits in no terminal of fewer than 63
columns, although narrower ones are accepted, and one with large figures needs more.

## Main definitions

* `Report.margin`: what a line of the table has beside its value

## Main results

* `width_labels_buildRows`: the labels take the same columns under all policies
* `width_values_buildRows_le_iff`: the lines that the values need room for
* `Report.fits_build_iff`: the terminals in which the table of the build fits
* `Report.not_forall_fits_build`: it does not fit in every terminal that is accepted
-/

namespace BuildSummary

open Table (Fits width)
open Text (columns decimal IsClosed IsPrintable)

section BuildRows

variable {policy : Policy} {record : BuildRecord} {changedFiles : Text}

/-! ## Labels -/

/-- The labels do not depend on the record. -/
theorem labels_buildRows :
    (buildRows policy record changedFiles).map (·.label) =
      (buildRows policy {} []).map (·.label) :=
  rfl

/-- The labels take the same columns under all policies. -/
theorem width_labels_buildRows :
    width ((buildRows policy record changedFiles).map (·.label)) = 22 := by
  rw [labels_buildRows]
  obtain ⟨_ | _⟩ := policy <;> decide

theorem isClosed_labels_buildRows :
    ∀ label ∈ (buildRows policy record changedFiles).map (·.label),
      ∀ line ∈ Text.lines label, IsClosed line := by
  rw [labels_buildRows]
  obtain ⟨_ | _⟩ := policy <;> decide

/-! ## Values -/

theorem isPrintable_decimal (n : Nat) : IsPrintable (decimal n) := by
  intro c hc
  obtain ⟨hzero, hnine⟩ := Char.isDigit_iff_toNat.mp (Text.isDigit_of_mem_decimal hc)
  exact ⟨Nat.le_trans (by decide) hzero, Nat.lt_of_le_of_lt hnine (by decide)⟩

theorem isPrintable_optionalCount (count : Option Nat) : IsPrintable (optionalCount count) := by
  cases count with
  | none => decide
  | some count => exact isPrintable_decimal count

/-- A figure takes as many columns as it has characters. -/
theorem columns_figure {key value : Text} (h : (key, value) ∈ figures record) :
    columns (key ++ value) = key.length + value.length := by
  have hkeys : ∀ key ∈ figureKeys, IsPrintable key := by decide
  have hkey : key ∈ figureKeys := List.mem_map_of_mem (f := Prod.fst) h
  have hvalue : IsPrintable value := by
    rcases List.mem_append.mp h with h | h
    · obtain ⟨pair, -, heq⟩ := List.mem_map.mp h
      obtain ⟨-, rfl⟩ := Prod.mk.inj heq
      exact isPrintable_decimal _
    · simp only [List.mem_cons, List.not_mem_nil, or_false, Prod.mk.injEq] at h
      rcases h with ⟨-, rfl⟩ | ⟨-, rfl⟩ | ⟨-, rfl⟩ | ⟨-, rfl⟩ <;>
        exact isPrintable_optionalCount _
  rw [((hkeys key hkey).append hvalue).columns_eq, List.length_append]

/-- The lines of a value that tells what a checker found. -/
theorem lines_findingsText_of_mem {checker : Checker} {findings : Option Findings}
    (h : (checker, findings) ∈ record.checkers) :
    Text.lines (findingsText checker findings) = [(Findings.statusOf findings).text, [],
      checker.totalKey ++ decimal (Findings.totalOf findings)] := by
  have hall : ∀ checker ∈ Checker.all, '\n' ∉ checker.totalKey := by decide
  exact lines_findingsText (hall checker (List.mem_map_of_mem (f := Prod.fst) h)) findings

/-- Each figure is a line of a value. -/
theorem exists_value_of_mem_figures {key value : Text} (h : (key, value) ∈ figures record) :
    ∃ cell ∈ (buildRows policy record changedFiles).map (·.value),
      key ++ value ∈ Text.lines cell := by
  rcases List.mem_append.mp h with h | h
  · obtain ⟨⟨checker, findings⟩, hpair, heq⟩ := List.mem_map.mp h
    obtain ⟨rfl, rfl⟩ := Prod.mk.inj heq
    have hcell : findingsText checker findings ∈
        (buildRows policy record changedFiles).map (·.value) := by
      simp only [BuildRecord.checkers, BuildRecord.cppCheckers, BuildRecord.pythonCheckers,
        List.cons_append, List.nil_append, List.mem_cons, List.not_mem_nil, or_false,
        Prod.mk.injEq] at hpair
      rcases hpair with ⟨rfl, rfl⟩ | ⟨rfl, rfl⟩ | ⟨rfl, rfl⟩ | ⟨rfl, rfl⟩ <;> simp [buildRows]
    refine ⟨_, hcell, ?_⟩
    rw [lines_findingsText_of_mem hpair]
    simp
  · have hcompilation : compilationText record.compilation ∈
        (buildRows policy record changedFiles).map (·.value) := by simp [buildRows]
    have htests : testsText record.tests ∈
        (buildRows policy record changedFiles).map (·.value) := by simp [buildRows]
    simp only [List.mem_cons, List.not_mem_nil, or_false, Prod.mk.injEq] at h
    rcases h with ⟨rfl, rfl⟩ | ⟨rfl, rfl⟩ | ⟨rfl, rfl⟩ | ⟨rfl, rfl⟩
    · exact ⟨_, hcompilation, by simp [lines_compilationText]⟩
    · exact ⟨_, hcompilation, by simp [lines_compilationText]⟩
    · exact ⟨_, htests, by simp [lines_testsText]⟩
    · exact ⟨_, htests, by simp [lines_testsText]⟩

/-- The longest key takes 33 columns, and its figure at least one. -/
theorem le_of_figures {bound : Nat}
    (h : ∀ key value, (key, value) ∈ figures record → key.length + value.length ≤ bound) :
    34 ≤ bound := by
  have hfigure := h Checker.vera.totalKey (decimal (Findings.totalOf record.vera))
    List.mem_cons_self
  have hkey : Checker.vera.totalKey.length = 33 := by decide
  have hdigits : 0 < (decimal (Findings.totalOf record.vera)).length :=
    List.length_pos_of_ne_nil (Text.decimal_ne_nil _)
  omega

theorem columns_status_le (status : Status) : columns status.text ≤ 19 := by
  cases status <;> decide

/-- The lines of a value that tells a status fit if those after the status do. -/
theorem forall_lines_of_status {value : Text} {status : Status} {ls : List Text} {bound : Nat}
    (hbound : 19 ≤ bound) (hlines : Text.lines value = status.text :: [] :: ls)
    (h : ∀ line ∈ ls, columns line ≤ bound) : ∀ line ∈ Text.lines value, columns line ≤ bound := by
  rw [hlines]
  refine List.forall_mem_cons.mpr ⟨?_, List.forall_mem_cons.mpr ⟨?_, h⟩⟩
  · exact (columns_status_le status).trans hbound
  · exact Nat.zero_le bound

/-- All lines but the figures and the changed files are short. -/
theorem forall_lines_buildRows {bound : Nat}
    (hfigures : ∀ key value, (key, value) ∈ figures record → columns (key ++ value) ≤ bound)
    (hchanged : ∀ line ∈ Text.lines changedFiles, columns line ≤ bound) (hbound : 19 ≤ bound) :
    ∀ value ∈ (buildRows policy record changedFiles).map (·.value),
      ∀ line ∈ Text.lines value, columns line ≤ bound := by
  have hheading : ∀ line ∈ Text.lines [], columns line ≤ bound := by
    rw [Text.lines_nil]
    exact nofun
  have hstatus (status : Status) : ∀ line ∈ Text.lines status.text, columns line ≤ bound := by
    rw [lines_status, List.forall_mem_singleton]
    exact (columns_status_le status).trans hbound
  have hupload (isUploaded : Bool) :
      ∀ line ∈ Text.lines (uploadText isUploaded), columns line ≤ bound := by
    have hshort : ∀ line ∈ Text.lines (uploadText isUploaded), columns line ≤ 19 := by
      cases isUploaded <;> decide
    intro line hline
    exact (hshort line hline).trans hbound
  have hfindings {checker : Checker} {findings : Option Findings}
      (h : (checker, findings) ∈ record.checkers) :
      ∀ line ∈ Text.lines (findingsText checker findings), columns line ≤ bound := by
    refine forall_lines_of_status hbound (lines_findingsText_of_mem h) ?_
    rw [List.forall_mem_singleton]
    exact hfigures _ _ (List.mem_append_left _ (List.mem_map.mpr ⟨_, h, rfl⟩))
  have hcompilation : ∀ line ∈ Text.lines (compilationText record.compilation),
      columns line ≤ bound := by
    refine forall_lines_of_status hbound (lines_compilationText record.compilation) ?_
    rw [List.forall_mem_cons, List.forall_mem_singleton]
    exact ⟨hfigures _ _ (by simp [figures]), hfigures _ _ (by simp [figures])⟩
  have htests : ∀ line ∈ Text.lines (testsText record.tests), columns line ≤ bound := by
    refine forall_lines_of_status hbound (lines_testsText record.tests) ?_
    rw [List.forall_mem_cons, List.forall_mem_singleton]
    exact ⟨hfigures _ _ (by simp [figures]), hfigures _ _ (by simp [figures])⟩
  simp only [buildRows, List.map_cons, List.map_nil, List.forall_mem_cons]
  exact ⟨hheading, hchanged, hheading, hstatus _, hstatus _, hstatus _, hheading,
    hfindings (.head _), hfindings (.tail _ (.head _)), hfindings (.tail _ (.tail _ (.head _))),
    hfindings (.tail _ (.tail _ (.tail _ (.head _)))), hheading, hstatus _, hcompilation,
    hstatus _, htests, hheading, hupload _, nofun⟩

/-- **The lines that the values need room for** are the figures and the changed files; all others
are shorter. -/
theorem width_values_buildRows_le_iff {bound : Nat} :
    width ((buildRows policy record changedFiles).map (·.value)) ≤ bound ↔
      (∀ key value, (key, value) ∈ figures record → key.length + value.length ≤ bound) ∧
        ∀ line ∈ Text.lines changedFiles, columns line ≤ bound := by
  rw [Table.width_le_iff]
  constructor
  · intro h
    constructor
    · intro key value hfigure
      obtain ⟨cell, hcell, hline⟩ := exists_value_of_mem_figures hfigure
      rw [← columns_figure hfigure]
      exact h cell hcell _ hline
    · exact h changedFiles (by simp [buildRows])
  · rintro ⟨hfigures, hchanged⟩
    refine forall_lines_buildRows ?_ hchanged (Nat.le_trans (by decide) (le_of_figures hfigures))
    intro key value hfigure
    rw [columns_figure hfigure]
    exact hfigures key value hfigure

end BuildRows

/-! ## The table -/

namespace Report

variable {terminal : Nat} {policy : Policy} {record : BuildRecord} {report : Report}

/-- What a line of the table of the build has beside its value: the label and the decoration. -/
def margin : Nat := 29

/-- The table of the build fits exactly if its values do beside the margin. -/
theorem fits_buildRows_iff {changedFiles : Text} :
    Fits terminal (buildRows policy record changedFiles) ↔
      (∀ key value, (key, value) ∈ figures record →
          key.length + value.length ≤ terminal - margin) ∧
        ∀ line ∈ Text.lines changedFiles, columns line ≤ terminal - margin := by
  rw [Table.fits_iff isClosed_labels_buildRows, width_labels_buildRows]
  set valueWidth := width ((buildRows policy record changedFiles).map (·.value))
  unfold Table.decoration margin
  constructor
  · intro h
    have hvalues : valueWidth ≤ terminal - 29 := by omega
    exact width_values_buildRows_le_iff.mp hvalues
  · intro h
    have hvalues : valueWidth ≤ terminal - 29 := width_values_buildRows_le_iff.mpr h
    -- the figures need room, so the margin is not cut off
    have hroom := le_of_figures h.1
    omega

/-- No table of a build fits in fewer than 63 columns. -/
theorem le_of_fits {changedFiles : Text}
    (h : Fits terminal (buildRows policy record changedFiles)) : 63 ≤ terminal := by
  have hroom := le_of_figures (fits_buildRows_iff.mp h).1
  unfold margin at hroom
  omega

/-- **The terminals in which the table of the build fits.** They leave room beside the margin for
all figures and for the lines of the changed files, so they have at least 63 columns. -/
theorem fits_build_iff (h : ofRecord (.bordered terminal) policy record = .ok report) :
    (Fits terminal report.build ↔
      (∀ key value, (key, value) ∈ figures record →
          key.length + value.length ≤ terminal - margin) ∧
        ∀ line ∈ Text.lines (changedFilesText (.bordered terminal) policy record),
          columns line ≤ terminal - margin) ∧
      (Fits terminal report.build → 63 ≤ terminal) := by
  obtain ⟨-, rfl⟩ := ofRecord_eq_ok_iff.mp h
  exact ⟨fits_buildRows_iff, le_of_fits⟩

/-- The report on a log that lists a changed file fits in 63 columns. -/
theorem fits_build_iff_changed :
    ∃ log record report, BuildRecord.ofLog log = .ok record ∧
      record.changedFiles = [("a.cpp" : Text)] ∧
      ofRecord (.bordered 63) {} record = .ok report ∧ Fits 63 report.build := by
  let log : List Text := ["MSGBLD0070", "MSGBLD0095: a.cpp", "MSGBLD0100"]
  let record := BuildRecord.assemble log {}
  have hrecord : BuildRecord.ofLog log = .ok record :=
    BuildRecord.ofLog_eq_ok_iff.mpr ⟨{}, by decide, rfl⟩
  have hsame : record.SameFiles := fun _ _ _ _ _ hformat => nomatch hformat
  have hreport : ofRecord (.bordered 63) {} record = .ok (assemble (.bordered 63) {} record) :=
    ofRecord_eq_ok_iff.mpr ⟨fun _ => hsame, rfl⟩
  obtain ⟨hfits, -⟩ := fits_build_iff hreport
  refine ⟨log, record, _, hrecord, by decide, hreport, hfits.mpr ⟨?_, ?_⟩⟩
  · intro key value hfigure
    have hall : ∀ figure ∈ figures record, figure.1.length + figure.2.length ≤ 63 - margin := by
      decide
    exact hall _ hfigure
  · decide

/-- **The table of the build does not fit in every terminal that is accepted**: not in the narrowest
one, for the report on an empty log. -/
theorem not_forall_fits_build :
    ¬ ∀ terminal policy log record report, minWidth ≤ terminal →
      BuildRecord.ofLog log = .ok record →
      ofRecord (.bordered terminal) policy record = .ok report → Fits terminal report.build := by
  intro h
  let record := BuildRecord.assemble [] {}
  have hreport : ofRecord (.bordered minWidth) {} record =
      .ok (assemble (.bordered minWidth) {} record) := rfl
  have hfits := h minWidth {} [] record _ (Nat.le_refl minWidth) rfl hreport
  exact absurd (le_of_fits hfits) (by decide)

end Report

end BuildSummary
