import BuildSummary.Changes
import BuildSummary.Compilation
import BuildSummary.Script
import BuildSummary.TestRun

/-!
# The record of a build

All that a report tells of a build, as it is read from the lines of its log. Each part is read on
its own, so the phases of a log may be interleaved.

## Main definitions

* `BuildRecord`: what is known of a build
* `BuildRecord.ofLog`: what a log tells of its build
-/

namespace BuildSummary

/-- What is known of a build: the files that the change touches, what became of each phase, and what
each checker reported. A record without any information is that of a build of which no phase
began. -/
@[ext] structure BuildRecord where
  changedFiles : List Text := []
  veraSetup : Status := .skipped
  cppcheckSetup : Status := .skipped
  clangFormatSetup : Status := .skipped
  vera : Option Findings := none
  cppcheck : Option Findings := none
  clangFormat : Option Findings := none
  pep8 : Option Findings := none
  configuration : Status := .skipped
  compilation : Compilation := {}
  installation : Status := .skipped
  tests : TestRun := {}
  isUploaded : Bool := false
  deriving DecidableEq

namespace BuildRecord

/-- What the log of a build tells, given what it tells of the tests. -/
def assemble (log : List Text) (tests : TestRun) : BuildRecord where
  changedFiles := Phase.changes.changedFiles changedFileItem log
  veraSetup := Phase.veraSetup.status log
  cppcheckSetup := Phase.cppcheckSetup.status log
  clangFormatSetup := Phase.clangFormatSetup.status log
  vera := Checker.vera.findings? log
  cppcheck := Checker.cppcheck.findings? log
  clangFormat := Checker.clangFormat.findings? log
  pep8 := Checker.pep8.findings? log
  configuration := Phase.configuration.status log
  compilation := .ofLog .compilation log
  installation := Phase.installation.status log
  tests := tests
  isUploaded := !log.any uploadSkipped.occursIn

/-- What the log of a build tells. -/
def ofLog (log : List Text) : Except MalformedCount BuildRecord := do
  return assemble log (← TestRun.ofLog .testing log)

/-- A log tells of a build if and only if it tells of the tests. -/
theorem ofLog_eq_ok_iff {log : List Text} {record : BuildRecord} :
    ofLog log = .ok record ↔
      ∃ tests, TestRun.ofLog .testing log = .ok tests ∧ record = assemble log tests := by
  unfold ofLog
  rw [bind_eq_ok_iff]
  simp only [pure, Except.pure, Except.ok.injEq, eq_comm (a := record)]

/-- The checkers of C++ files with what they reported, in the order of reports. -/
def cppCheckers (record : BuildRecord) : List (Checker × Option Findings) :=
  [(.vera, record.vera), (.cppcheck, record.cppcheck), (.clangFormat, record.clangFormat)]

/-- The checkers of Python files with what they reported. -/
def pythonCheckers (record : BuildRecord) : List (Checker × Option Findings) :=
  [(.pep8, record.pep8)]

/-- Whether any checker reported anything. -/
def hasFindings (record : BuildRecord) : Bool :=
  (record.cppCheckers ++ record.pythonCheckers).any fun (_, findings) =>
    0 < Findings.totalOf findings

end BuildRecord

end BuildSummary
