import BuildSummary.Proofs.SameFiles

/-!
# Cppcheck without a vote

If Cppcheck is no gate, the verdict on a record does not depend on what is known of Cppcheck. The
exit code of the program still may: Cppcheck is one of the checkers whose files are compared, and a
record on which they differ has no report. This is the only way in which Cppcheck gets through.

## Main definitions

* `Policy.ungated`: Cppcheck is no gate
* `BuildRecord.withCppcheck`: a record with other knowledge of Cppcheck
* `BuildRecord.exitCode`: the exit code of the program for a record

## Main results

* `exitCode_withCppcheck`: when the knowledge of Cppcheck changes the exit code
* `not_forall_exitCode_withCppcheck_eq`: a record whose exit code it changes
-/

namespace BuildSummary

/-- The policy under which Cppcheck is no gate. -/
def Policy.ungated : Policy where
  gateCppcheck := false

namespace BuildRecord

variable {style : TableStyle} {policy : Policy} {record : BuildRecord}

/-- The record with other knowledge of Cppcheck: what it reported and what became of its setup. -/
def withCppcheck (record : BuildRecord) (findings : Option Findings) (setup : Status) :
    BuildRecord :=
  { record with cppcheck := findings, cppcheckSetup := setup }

/-- The exit code of the program for a record. -/
def exitCode (style : TableStyle) (policy : Policy) (record : BuildRecord) : Nat :=
  (Outcome.ofSummary ((Summary.ofRecord style policy record).mapError .inconsistentFiles)).exitCode

/-- Whether there is a report on the record. -/
def HasReport (style : TableStyle) (policy : Policy) (record : BuildRecord) : Prop :=
  ∃ report, Report.ofRecord style policy record = .ok report

theorem hasReport_iff :
    record.HasReport style policy ↔ (record.hasFindings = true → record.SameFiles) := by
  unfold HasReport
  simp only [Report.ofRecord_eq_ok_iff, exists_and_left, exists_eq, and_true]

/-- The program exits with the verdict if there is a report. -/
theorem exitCode_of_hasReport (h : record.HasReport style policy) :
    record.exitCode style policy = exitCodeOf (record.succeeds policy) := by
  obtain ⟨summary, hsummary⟩ : ∃ summary, Summary.ofRecord style policy record = .ok summary :=
    ⟨_, Summary.ofRecord_eq_ok_iff.mpr ⟨hasReport_iff.mp h, rfl⟩⟩
  obtain ⟨-, rfl⟩ := Summary.ofRecord_eq_ok_iff.mp hsummary
  rw [exitCode, hsummary]
  rfl

/-- The program exits with failure if there is no report. -/
theorem exitCode_of_not_hasReport (h : ¬ record.HasReport style policy) :
    record.exitCode style policy = 1 := by
  cases hsummary : Summary.ofRecord style policy record with
  | error e =>
    rw [exitCode, hsummary]
    rfl
  | ok summary => exact absurd (hasReport_iff.mpr (Summary.ofRecord_eq_ok_iff.mp hsummary).1) h

/-- The program exits with success if and only if there is a report and the build succeeds. -/
theorem exitCode_eq_zero_iff :
    record.exitCode style policy = 0 ↔
      record.HasReport style policy ∧ record.succeeds policy = true := by
  by_cases hreport : record.HasReport style policy
  · rw [exitCode_of_hasReport hreport, exitCodeOf_eq_zero_iff, and_iff_right hreport]
  · rw [exitCode_of_not_hasReport hreport]
    simp [hreport]

/-- Two exit codes are the same if both or neither of them are zero. -/
theorem exitCode_eq_iff {other : BuildRecord} :
    other.exitCode style policy = record.exitCode style policy ↔
      (other.exitCode style policy = 0 ↔ record.exitCode style policy = 0) := by
  have hcode (r : BuildRecord) : r.exitCode style policy = 0 ∨ r.exitCode style policy = 1 := by
    by_cases hreport : r.HasReport style policy
    · rw [exitCode_of_hasReport hreport]
      cases r.succeeds policy <;> decide
    · exact .inr (exitCode_of_not_hasReport hreport)
  have := hcode record
  have := hcode other
  omega

/-- The verdict does not depend on Cppcheck if it is no gate. -/
theorem succeeds_withCppcheck (findings : Option Findings) (setup : Status) :
    (record.withCppcheck findings setup).succeeds .ungated = record.succeeds .ungated := rfl

end BuildRecord

/-- The program exits with the exit code of the record that its log tells, unless the options are
refused. -/
theorem exitCode_ofOptions {options : Options} {bytes : List UInt8} {record : BuildRecord}
    (hwidth : minWidth ≤ options.width)
    (hrecord : BuildRecord.ofLog (logLines bytes) = .ok record) :
    (Outcome.ofOptions options (.file bytes)).exitCode =
      record.exitCode (.bordered options.width) options.policy := by
  have hvalid : options.validate (.file bytes) = .ok () := by
    simp [Options.validate, Nat.not_lt.mpr hwidth]
  simp [Outcome.ofOptions, Outcome.summary, hvalid, Summary.ofPath, Summary.ofLog, hrecord,
    BuildRecord.exitCode, bind, Except.bind]

/-- **What Cppcheck may change** if it is no gate. The verdict stays. The exit code changes exactly
if the build succeeds and one of the two records has a report and the other has not. Without a
report the program exits with failure, and the records without one are those with findings whose C++
checkers all ran, but not on the same files. -/
theorem exitCode_withCppcheck (style : TableStyle) (record : BuildRecord)
    (findings : Option Findings) (setup : Status) :
    let other := record.withCppcheck findings setup
    other.succeeds .ungated = record.succeeds .ungated ∧
      (other.exitCode style .ungated ≠ record.exitCode style .ungated ↔
        record.succeeds .ungated = true ∧
          ¬ (other.HasReport style .ungated ↔ record.HasReport style .ungated)) ∧
      ∀ r ∈ [record, other],
        (¬ r.HasReport style .ungated ↔ r.hasFindings = true ∧ ¬ r.SameFiles) ∧
          (¬ r.HasReport style .ungated → r.exitCode style .ungated = 1) := by
  intro other
  have hverdict : other.succeeds .ungated = record.succeeds .ungated :=
    BuildRecord.succeeds_withCppcheck findings setup
  refine ⟨hverdict, ?_, ?_⟩
  -- the verdict is the same for both, so only the reports can make a difference
  · rw [ne_eq, BuildRecord.exitCode_eq_iff, BuildRecord.exitCode_eq_zero_iff,
      BuildRecord.exitCode_eq_zero_iff, hverdict]
    cases record.succeeds .ungated <;> simp
  · intro r _
    refine ⟨?_, BuildRecord.exitCode_of_not_hasReport⟩
    rw [BuildRecord.hasReport_iff, Classical.not_imp]

/-- **Cppcheck may change the exit code** although it is no gate: a build that succeeds without
Cppcheck, of which VERA++ and clang-format looked at the file `a`, fails if Cppcheck has a message
on the file `b`. -/
theorem not_forall_exitCode_withCppcheck_eq :
    ¬ ∀ (style : TableStyle) (record : BuildRecord) (findings : Option Findings) (setup : Status),
      (record.withCppcheck findings setup).exitCode style .ungated =
        record.exitCode style .ungated := by
  intro h
  let record : BuildRecord := {
    vera := some (Findings.begin ∅ ['a'])
    clangFormat := some (Findings.begin ∅ ['a'])
    configuration := .passed
    compilation := { status := .passed }
    installation := .passed
    tests := { status := .passed } }
  have hcode := h (.bordered 80) record (some (Findings.add ∅ ['b'] ['m'])) .skipped
  exact absurd hcode (by decide)

end BuildSummary
