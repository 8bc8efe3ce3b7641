import BuildSummary.BuildRecord

/-!
# The verdict on a build

A build succeeds if no checker failed to be set up or found anything, and the project is
configured, compiled, installed and tested. Cppcheck counts only on request, since its findings are
often harmless.

## Main definitions

* `Policy`: which findings decide
* `BuildRecord.succeeds`: the verdict
* `exitCodeOf`: how the program tells it
-/

namespace BuildSummary

/-- Which findings decide on a build. -/
structure Policy where
  /-- Whether Cppcheck is a gate. -/
  gateCppcheck : Bool := false
  deriving DecidableEq

namespace BuildRecord

/-- Whether no checker that is a gate failed to be set up. -/
def isSetUp (policy : Policy) (record : BuildRecord) : Bool :=
  record.veraSetup.isPassedOrSkipped && record.clangFormatSetup.isPassedOrSkipped &&
    (!policy.gateCppcheck || record.cppcheckSetup.isPassedOrSkipped)

/-- Whether the project was configured, compiled, installed and tested. -/
def isBuilt (record : BuildRecord) : Bool :=
  record.configuration = .passed && record.compilation.status = .passed &&
    record.installation = .passed && record.tests.status = .passed

/-- Whether no checker that is a gate found anything. -/
def isClean (policy : Policy) (record : BuildRecord) : Bool :=
  Findings.totalOf record.vera == 0 && Findings.totalOf record.clangFormat == 0 &&
    Findings.totalOf record.pep8 == 0 &&
    (!policy.gateCppcheck || Findings.totalOf record.cppcheck == 0)

/-- Whether the build succeeded. -/
def succeeds (policy : Policy) (record : BuildRecord) : Bool :=
  record.isSetUp policy && record.isBuilt && record.isClean policy

end BuildRecord

/-- The exit code that tells a verdict. -/
def exitCodeOf (succeeded : Bool) : Nat :=
  if succeeded then 0 else 1

theorem exitCodeOf_eq_zero_iff {succeeded : Bool} :
    exitCodeOf succeeded = 0 ↔ succeeded = true := by
  cases succeeded <;> decide

end BuildSummary
