import BuildSummary.Program

/-!
# When there is no report

The C++ checkers are meant to run on the same files. If all of them ran, the report compares the
files of each with those of the first, and refuses the build if they differ; it does so only if some
checker reported something.

## Main definitions

* `BuildRecord.SameFiles`: the C++ checkers ran on the same files, or one of them did not run

## Main results

* `mem_filesInOne_iff`: the files of an error are those that only one of two checkers analysed
* `checkSameFiles_cppCheckers_eq_ok_iff`: the comparison succeeds exactly on the same files
* `Report.ofRecord_eq_ok_iff`: when there is a report, and which
-/

namespace BuildSummary

/-- The files listed are those that only one of two checkers analysed. -/
theorem mem_filesInOne_iff {a b : Findings} {file : Text} :
    file ∈ filesInOne a b ↔ a.contains file ≠ b.contains file := by
  rw [filesInOne, Index.mem_keys_iff, Index.contains_ofKeys, decide_eq_true_iff, List.mem_append,
    List.mem_filter, List.mem_filter, Findings.files, Findings.files, Index.mem_keys_iff,
    Index.mem_keys_iff]
  cases a.contains file <;> cases b.contains file <;> simp

theorem filesInOne_eq_nil_iff {a b : Findings} :
    filesInOne a b = [] ↔ ∀ file, a.contains file = b.contains file := by
  rw [List.eq_nil_iff_forall_not_mem]
  exact forall_congr' fun file => by rw [mem_filesInOne_iff, Decidable.not_not]

theorem compareFiles_eq_ok_iff {first checker : Checker} {reference findings : Findings} :
    compareFiles first reference checker findings = .ok () ↔
      ∀ file, reference.contains file = findings.contains file := by
  rw [← filesInOne_eq_nil_iff]
  unfold compareFiles
  cases filesInOne reference findings <;> simp

namespace BuildRecord

variable {record : BuildRecord}

/-- If all C++ checkers ran, they ran on the same files. -/
def SameFiles (record : BuildRecord) : Prop :=
  ∀ vera cppcheck clangFormat, record.vera = some vera → record.cppcheck = some cppcheck →
    record.clangFormat = some clangFormat → ∀ file,
      vera.contains file = cppcheck.contains file ∧ vera.contains file = clangFormat.contains file

/-- If all C++ checkers ran, the files of Cppcheck and then those of clang-format are compared with
those of VERA++. -/
theorem checkSameFiles_of_all_ran {vera cppcheck clangFormat : Findings}
    (hvera : record.vera = some vera) (hcppcheck : record.cppcheck = some cppcheck)
    (hformat : record.clangFormat = some clangFormat) :
    checkSameFiles record.cppCheckers = (do
      compareFiles .vera vera .cppcheck cppcheck
      compareFiles .vera vera .clangFormat clangFormat) := by
  simp only [cppCheckers, hvera, hcppcheck, hformat]
  show (do
    compareFiles .vera vera .cppcheck cppcheck
    compareFiles .vera vera .clangFormat clangFormat
    pure ()) = _
  cases compareFiles .vera vera .cppcheck cppcheck <;>
    cases compareFiles .vera vera .clangFormat clangFormat <;> rfl

/-- Nothing is compared unless all C++ checkers ran. -/
theorem checkSameFiles_of_not_all_ran
    (h : record.vera = none ∨ record.cppcheck = none ∨ record.clangFormat = none) :
    checkSameFiles record.cppCheckers = .ok () := by
  unfold cppCheckers
  cases hvera : record.vera with
  | none => rfl
  | some vera =>
    cases hcppcheck : record.cppcheck with
    | none => rfl
    | some cppcheck =>
      cases hformat : record.clangFormat with
      | none => rfl
      | some clangFormat => simp [hvera, hcppcheck, hformat] at h

/-- **The comparison of the files** succeeds exactly if the checkers ran on the same files. -/
theorem checkSameFiles_cppCheckers_eq_ok_iff :
    checkSameFiles record.cppCheckers = .ok () ↔ record.SameFiles := by
  by_cases h : record.vera = none ∨ record.cppcheck = none ∨ record.clangFormat = none
  -- nothing is compared, and there are no three tables to differ
  · refine iff_of_true (checkSameFiles_of_not_all_ran h) ?_
    intro vera cppcheck clangFormat hvera hcppcheck hformat
    simp [hvera, hcppcheck, hformat] at h
  · simp only [not_or, ← ne_eq, Option.ne_none_iff_exists'] at h
    obtain ⟨⟨vera, hvera⟩, ⟨cppcheck, hcppcheck⟩, ⟨clangFormat, hformat⟩⟩ := h
    rw [checkSameFiles_of_all_ran hvera hcppcheck hformat]
    rw [bind_eq_ok_iff]
    constructor
    · rintro ⟨⟨⟩, hfirst, hsecond⟩ v c f hv hc hf file
      cases hvera.symm.trans hv
      cases hcppcheck.symm.trans hc
      cases hformat.symm.trans hf
      exact ⟨compareFiles_eq_ok_iff.mp hfirst file, compareFiles_eq_ok_iff.mp hsecond file⟩
    · intro hsame
      have hfiles := hsame vera cppcheck clangFormat hvera hcppcheck hformat
      exact ⟨(), compareFiles_eq_ok_iff.mpr fun file => (hfiles file).1,
        compareFiles_eq_ok_iff.mpr fun file => (hfiles file).2⟩

end BuildRecord

namespace Report

variable {style : TableStyle} {policy : Policy} {record : BuildRecord}

/-- **There is a report**, with the parts of the record, unless there are findings of checkers that
ran on different files. -/
theorem ofRecord_eq_ok_iff {report : Report} :
    ofRecord style policy record = .ok report ↔
      (record.hasFindings = true → record.SameFiles) ∧ report = assemble style policy record := by
  rw [← BuildRecord.checkSameFiles_cppCheckers_eq_ok_iff]
  unfold ofRecord
  cases record.hasFindings with
  | false => simp [pure, Except.pure, eq_comm]
  | true =>
    cases checkSameFiles record.cppCheckers <;> simp [pure, Except.pure, bind, Except.bind, eq_comm]

end Report

namespace Summary

variable {style : TableStyle} {policy : Policy} {record : BuildRecord}

/-- There is a summary of a record exactly if there is a report. -/
theorem ofRecord_eq_ok_iff {summary : Summary} :
    ofRecord style policy record = .ok summary ↔
      (record.hasFindings = true → record.SameFiles) ∧
        summary = ⟨(Report.assemble style policy record).text style, record.succeeds policy⟩ := by
  unfold ofRecord
  rw [bind_eq_ok_iff]
  simp only [Report.ofRecord_eq_ok_iff, pure, Except.pure, Except.ok.injEq]
  constructor
  · rintro ⟨report, ⟨hsame, rfl⟩, rfl⟩
    exact ⟨hsame, rfl⟩
  · rintro ⟨hsame, rfl⟩
    exact ⟨_, ⟨hsame, rfl⟩, rfl⟩

/-- There is a summary of a log exactly if its tests can be read and there is one of its record. -/
theorem ofLog_eq_ok_iff {log : List Text} {summary : Summary} :
    ofLog style policy log = .ok summary ↔
      ∃ record, BuildRecord.ofLog log = .ok record ∧
        ofRecord style policy record = .ok summary := by
  unfold ofLog
  cases BuildRecord.ofLog log with
  | error e => simp
  | ok record => simp [mapError_eq_ok_iff]

end Summary

end BuildSummary
