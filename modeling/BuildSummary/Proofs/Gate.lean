import BuildSummary.Proofs.Diagnostics
import BuildSummary.Proofs.Noise
import BuildSummary.Proofs.SameFiles

/-!
# The gate

The program exits with success exactly for the logs whose lines say so: the phases that must not
fail were completed, the compiler reported no error, the last count of failed tests is zero, no
checker that is a gate reported a message in the last run on a file, and the C++ checkers did not
run on different files while there is something to report.

## Main definitions

* `Checker.IsClean`: a checker has no message in the last run on a file, by the lines of the run
* `Policy.setups`, `Policy.gates`: the phases that must not fail, and the checkers that decide
* `Policy.Accepts`: what the lines of a log must say for its build to succeed

## Main results

* `exitCode_eq_zero_iff_accepts`: the exit code is zero exactly for the logs that the policy accepts
-/

namespace BuildSummary

namespace Checker

variable {checker : Checker}

/-- The checker has no message in the last run on a file: no line of the run is an item, but for the
noise of Cppcheck. -/
def IsClean (checker : Checker) (log : List Text) : Prop :=
  ∀ run, IsLastRun (checker.runs log) run → ∀ line ∈ run.lines,
    checker.item.occursIn line = true → checker = cppcheck ∧ IsNoise line

/-- Of the script's checkers, only Cppcheck has lines that tell nothing. -/
theorem message?_eq_none_iff_isNoise (h : checker ∈ all) (line : Text) :
    checker.message? line = none ↔ checker = cppcheck ∧ IsNoise line := by
  rcases mem_all_iff.mp h with rfl | rfl | rfl | rfl
  · exact iff_of_false nofun fun hnoise => absurd hnoise.1 (by decide)
  · rw [message?_cppcheck_eq_none_iff, and_iff_right rfl]
  · exact iff_of_false nofun fun hnoise => absurd hnoise.1 (by decide)
  · exact iff_of_false nofun fun hnoise => absurd hnoise.1 (by decide)

/-- **A checker of the script found nothing** if and only if it is clean. -/
theorem isClean_iff (h : checker ∈ all) (log : List Text) :
    checker.IsClean log ↔ Findings.totalOf (checker.findings? log) = 0 := by
  rw [totalOf_findings?_eq_zero_iff]
  simp only [messagesIn_eq_nil_iff, message?_eq_none_iff_isNoise h]
  rfl

end Checker

namespace Policy

/-- The phases that may be left out but must not fail. -/
def setups (policy : Policy) : List Phase :=
  [.veraSetup, .clangFormatSetup] ++ if policy.gateCppcheck then [.cppcheckSetup] else []

/-- The checkers that must not find anything. -/
def gates (policy : Policy) : List Checker :=
  [.vera, .clangFormat, .pep8] ++ if policy.gateCppcheck then [.cppcheck] else []

/-- What the lines of a log must say for its build to succeed. -/
structure Accepts (policy : Policy) (log : List Text) : Prop where
  /-- No checker failed to be set up. -/
  setUp : ∀ phase ∈ policy.setups,
    (∀ line ∈ log, phase.opens line = false) ∨ ∃ lines, phase.Completes log lines
  /-- The project was configured. -/
  configured : ∃ lines, Phase.configuration.Completes log lines
  /-- The project was compiled, and no line of the compilation is an error. -/
  compiled : ∃ lines, Phase.compilation.Completes log lines ∧
    ∀ line ∈ lines, Severity.error.tag.occursIn line = false
  /-- The project was installed. -/
  installed : ∃ lines, Phase.installation.Completes log lines
  /-- The tests were completed, their summary can be read, and the first word of digits on its last
  line of failed tests is a zero. -/
  tested : ∃ lines, Phase.testing.Completes log lines ∧
    (∀ line ∈ TestRun.summary lines, ∀ count : TestCount, ¬ count.IsMalformedOn line) ∧
    ∃ before last after, TestRun.summary lines = before ++ last :: after ∧
      TestCount.failed.label.occursIn last = true ∧
      (∀ line ∈ after, TestCount.failed.label.occursIn line = false) ∧
      ∃ word, (Text.words last).find? Text.isDigits = some word ∧ Nat.ofDigitChars 10 word 0 = 0
  /-- No checker that is a gate has a message in the last run on a file. -/
  clean : ∀ checker ∈ policy.gates, checker.IsClean log
  /-- If any checker has such a message, one of the C++ checkers did not run, or all of them ran on
  the same files. -/
  consistent : (∀ checker ∈ Checker.all, checker.IsClean log) ∨
    (∃ checker ∈ [Checker.vera, .cppcheck, .clangFormat], checker.runs log = []) ∨
    ∀ file, (Checker.vera.Analyses log file ↔ Checker.cppcheck.Analyses log file) ∧
      (Checker.vera.Analyses log file ↔ Checker.clangFormat.Analyses log file)

end Policy

/-! ## The parts of a record -/

variable {phase : Phase} {log : List Text} {tests : TestRun} {policy : Policy}

namespace BuildRecord

theorem isSetUp_assemble :
    (assemble log tests).isSetUp policy = true ↔
      ∀ phase ∈ policy.setups,
        (∀ line ∈ log, phase.opens line = false) ∨ ∃ lines, phase.Completes log lines := by
  simp only [← Phase.isPassedOrSkipped_status_iff]
  unfold isSetUp Policy.setups
  cases policy.gateCppcheck <;> simp [assemble, and_assoc]

theorem isClean_assemble :
    (assemble log tests).isClean policy = true ↔
      ∀ checker ∈ policy.gates, checker.IsClean log := by
  have hall {checker : Checker} (h : checker ∈ policy.gates) : checker ∈ Checker.all := by
    revert h checker
    unfold Policy.gates
    cases policy.gateCppcheck <;> decide
  rw [forall₂_congr fun checker h => Checker.isClean_iff (hall h) log]
  unfold isClean Policy.gates
  cases policy.gateCppcheck <;> simp [assemble, and_assoc]

theorem isBuilt_assemble :
    (assemble log tests).isBuilt = true ↔
      (∃ lines, Phase.configuration.Completes log lines) ∧
        (∃ lines, Phase.compilation.Completes log lines ∧
          ∀ line ∈ lines, Severity.error.tag.occursIn line = false) ∧
        (∃ lines, Phase.installation.Completes log lines) ∧ tests.status = .passed := by
  rw [← Phase.status_eq_passed_iff_completes, ← Phase.status_eq_passed_iff_completes,
    ← Compilation.status_ofLog_eq_passed_iff]
  simp only [isBuilt, Bool.and_eq_true, decide_eq_true_iff, and_assoc]
  rfl

theorem hasFindings_assemble (tests : TestRun) :
    (assemble log tests).hasFindings = false ↔ ∀ checker ∈ Checker.all, checker.IsClean log := by
  rw [forall₂_congr fun checker h => Checker.isClean_iff h log]
  simp [hasFindings, cppCheckers, pythonCheckers, assemble, Checker.all]

theorem sameFiles_assemble (tests : TestRun) :
    (assemble log tests).SameFiles ↔
      (∃ checker ∈ [Checker.vera, .cppcheck, .clangFormat], checker.runs log = []) ∨
      ∀ file, (Checker.vera.Analyses log file ↔ Checker.cppcheck.Analyses log file) ∧
        (Checker.vera.Analyses log file ↔ Checker.clangFormat.Analyses log file) := by
  by_cases hnone : ∃ checker ∈ [Checker.vera, .cppcheck, .clangFormat], checker.runs log = []
  · refine iff_of_true (fun vera cppcheck clangFormat hvera hcppcheck hformat => ?_) (.inl hnone)
    simp only [assemble] at hvera hcppcheck hformat
    simp [← Checker.findings?_eq_none_iff, hvera, hcppcheck, hformat] at hnone
  -- all of them ran, so all three tables are there to be compared
  · have hsome (checker : Checker) (hmem : checker ∈ [Checker.vera, .cppcheck, .clangFormat]) :
        ∃ findings, checker.findings? log = some findings := by
      rw [← Option.ne_none_iff_exists', ne_eq, Checker.findings?_eq_none_iff]
      exact fun h => hnone ⟨checker, hmem, h⟩
    obtain ⟨vera, hvera⟩ := hsome .vera (by simp)
    obtain ⟨cppcheck, hcppcheck⟩ := hsome .cppcheck (by simp)
    obtain ⟨clangFormat, hformat⟩ := hsome .clangFormat (by simp)
    rw [or_iff_right hnone]
    simp only [← Checker.contains_of_findings?_eq_some hvera,
      ← Checker.contains_of_findings?_eq_some hcppcheck,
      ← Checker.contains_of_findings?_eq_some hformat, ← Bool.eq_iff_iff]
    constructor
    · intro h
      exact h vera cppcheck clangFormat hvera hcppcheck hformat
    · intro h v c f hv hc hf
      cases hvera.symm.trans hv
      cases hcppcheck.symm.trans hc
      cases hformat.symm.trans hf
      exact h

end BuildRecord

/-! ## The verdict -/

/-- **The gate.** The summary of a log exists and its exit code is zero if and only if the lines of
the log say that the build succeeded. -/
theorem exitCode_eq_zero_iff_accepts (style : TableStyle) (policy : Policy) (log : List Text) :
    (∃ summary, Summary.ofLog style policy log = .ok summary ∧ exitCodeOf summary.succeeded = 0) ↔
      policy.Accepts log := by
  simp only [exitCodeOf_eq_zero_iff, Summary.ofLog_eq_ok_iff, BuildRecord.ofLog_eq_ok_iff]
  constructor
  · rintro ⟨summary, ⟨record, ⟨tests, htests, rfl⟩, hrecord⟩, hsucceeded⟩
    obtain ⟨hsame, rfl⟩ := Summary.ofRecord_eq_ok_iff.mp hrecord
    simp only [BuildRecord.succeeds, Bool.and_eq_true, BuildRecord.isSetUp_assemble,
      BuildRecord.isBuilt_assemble, BuildRecord.isClean_assemble] at hsucceeded
    obtain ⟨⟨hsetUp, hconfigured, hcompiled, hinstalled, hpassed⟩, hclean⟩ := hsucceeded
    obtain ⟨lines, hlines, hsummary, hfailed⟩ :=
      TestRun.exists_ofLog_passed_iff.mp ⟨tests, htests, hpassed⟩
    obtain ⟨before, last, after, hsplit, hlast, hafter, hread⟩ :=
      TestCount.latest_none_eq_some_iff.mp hfailed
    refine ⟨hsetUp, hconfigured, hcompiled, hinstalled, ?_, hclean, ?_⟩
    -- the tests, in terms of the last line that tells a count
    · exact ⟨lines, hlines, hsummary, before, last, after, hsplit, hlast, hafter,
        TestCount.read?_failed_eq_some_zero_iff.mp hread⟩
    -- the files are compared only if there is something to report
    · rw [← BuildRecord.hasFindings_assemble tests,
        ← BuildRecord.sameFiles_assemble tests]
      cases hfindings : (BuildRecord.assemble log tests).hasFindings with
      | false => exact .inl rfl
      | true => exact .inr (hsame hfindings)
  · rintro ⟨hsetUp, hconfigured, hcompiled, hinstalled, htested, hclean, hconsistent⟩
    obtain ⟨lines, hlines, hsummary, before, last, after, hsplit, hlast, hafter, hzero⟩ := htested
    have hread := TestCount.read?_failed_eq_some_zero_iff.mpr hzero
    have hfailed := TestCount.latest_none_eq_some_iff.mpr
      ⟨before, last, after, hsplit, hlast, hafter, hread⟩
    obtain ⟨tests, htests, hpassed⟩ :=
      TestRun.exists_ofLog_passed_iff.mpr ⟨lines, hlines, hsummary, hfailed⟩
    rw [← BuildRecord.hasFindings_assemble tests,
      ← BuildRecord.sameFiles_assemble tests] at hconsistent
    refine ⟨_, ⟨_, ⟨tests, htests, rfl⟩, Summary.ofRecord_eq_ok_iff.mpr ⟨?_, rfl⟩⟩, ?_⟩
    · intro hfindings
      exact hconsistent.resolve_left (by simp [hfindings])
    · simp only [BuildRecord.succeeds, Bool.and_eq_true, BuildRecord.isSetUp_assemble,
        BuildRecord.isBuilt_assemble, BuildRecord.isClean_assemble]
      exact ⟨⟨hsetUp, hconfigured, hcompiled, hinstalled, hpassed⟩, hclean⟩

end BuildSummary
