import Mathlib.Logic.Basic
import BuildSummary.Proofs.SameFiles

/-!
# Refused reports

A report is refused if the C++ checkers did not run on the same files, which points at a broken
build script. The files are compared on the way to the tables of findings, so nothing is compared
for a record without a message, and a broken build script goes unnoticed there.

## Main definitions

* `BuildRecord.FilesDiffer`: all C++ checkers ran, but not on the same files

## Main results

* `Report.refused_iff`: when a report is refused
* `Report.not_forall_refused_iff_filesDiffer`: checkers that ran on different files do not suffice
-/

namespace BuildSummary

namespace BuildRecord

variable {record : BuildRecord}

/-- All C++ checkers ran, but not on the same files. -/
def FilesDiffer (record : BuildRecord) : Prop :=
  ∃ vera cppcheck clangFormat, record.vera = some vera ∧ record.cppcheck = some cppcheck ∧
    record.clangFormat = some clangFormat ∧
    ¬ ∀ file, (file ∈ vera.files ↔ file ∈ cppcheck.files) ∧
      (file ∈ vera.files ↔ file ∈ clangFormat.files)

theorem not_sameFiles_iff : ¬ record.SameFiles ↔ record.FilesDiffer := by
  unfold SameFiles FilesDiffer Findings.files
  simp only [Index.mem_keys_iff, ← Bool.eq_iff_iff, not_forall, exists_prop]

end BuildRecord

namespace Report

variable {style : TableStyle} {policy : Policy} {record : BuildRecord}

theorem refused_iff_not_exists_ok :
    (∃ e, ofRecord style policy record = .error e) ↔
      ¬ ∃ report, ofRecord style policy record = .ok report := by
  cases ofRecord style policy record <;> simp

theorem exists_ofRecord_eq_ok_iff :
    (∃ report, ofRecord style policy record = .ok report) ↔
      ¬ (record.hasFindings = true ∧ record.FilesDiffer) := by
  simp only [ofRecord_eq_ok_iff, exists_and_left, exists_eq, and_true]
  rw [← BuildRecord.not_sameFiles_iff, not_and, not_not]

/-- **When a report is refused**: some checker has a message, and all C++ checkers ran, but not on
the same files. On any other record there is a report. -/
theorem refused_iff (style : TableStyle) (policy : Policy) (record : BuildRecord) :
    ((∃ e, ofRecord style policy record = .error e) ↔
        record.hasFindings = true ∧ record.FilesDiffer) ∧
      ((∃ report, ofRecord style policy record = .ok report) ↔
        ¬ (record.hasFindings = true ∧ record.FilesDiffer)) := by
  refine ⟨?_, exists_ofRecord_eq_ok_iff⟩
  rw [refused_iff_not_exists_ok, exists_ofRecord_eq_ok_iff, not_not]

/-- **Checkers that ran on different files do not suffice**: VERA++ and clang-format looked at the
file `a`, Cppcheck at the file `b`, and none of them has a message. -/
theorem not_forall_refused_iff_filesDiffer :
    ¬ ∀ (style : TableStyle) (policy : Policy) (record : BuildRecord),
      (∃ e, ofRecord style policy record = .error e) ↔ record.FilesDiffer := by
  intro h
  let record : BuildRecord := {
    vera := some (Findings.begin ∅ ['a'])
    cppcheck := some (Findings.begin ∅ ['b'])
    clangFormat := some (Findings.begin ∅ ['a']) }
  have hdiffer : record.FilesDiffer := by
    refine ⟨_, _, _, rfl, rfl, rfl, fun hsame => ?_⟩
    exact absurd (hsame ['a']).1 (by decide)
  obtain ⟨e, he⟩ := (h (.bordered 80) {} record).mpr hdiffer
  -- without a message no tables are listed, so the files are not compared
  have hnone : record.hasFindings = false := by decide
  simp [ofRecord, hnone, pure, Except.pure] at he

end Report

end BuildSummary
