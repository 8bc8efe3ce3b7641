import BuildSummary.Proofs.Diagnostics
import BuildSummary.Proofs.LastRun
import BuildSummary.Proofs.Observations
import BuildSummary.Proofs.Printing

/-!
# What a record tells of a build

A record tells of a build if each of its parts tells what is known of the build: how far the phases
got, what the checkers said when they last ran on a file, how many diagnostics each file has, and
what the tests counted. Everything is counted in the description of the build itself, so nothing
here says how a log is read. A build has at most one record that tells of it.

## Main definitions

* `Extent.status`, `TestCounts.testRun`: what became of a phase and of the tests
* `Analysis.lastMessages`: the messages of the last run on a file
* `Making.count`, `Making.countIn`: how many diagnostics there are, in all and in one file
* `Analysis.AreToldBy`, `Making.IsToldBy`, `Build.IsToldBy`: a record tells of a build

## Main results

* `Build.IsToldBy.unique`: a build is told by one record at most
-/

namespace BuildSummary

/-! ## Phases and tests -/

/-- What becomes of a phase that got so far. -/
def Extent.status : Extent → Status
  | absent => .skipped
  | started => .failed
  | completed => .passed

/-- What became of a test suite that was run to its end. -/
def TestCounts.testRun (counts : TestCounts) : TestRun where
  status := if counts.value .failed = 0 then .passed else .failed
  total := some (counts.value .total)
  failed := some (counts.value .failed)

/-! ## Checkers -/

namespace Analysis

variable {checker : Checker} {analyses : List (Analysis checker)}

/-- The run and its messages. -/
def run (analysis : Analysis checker) : Run where
  file := analysis.file.text
  lines := analysis.messages.map Message.text

/-- The messages of the last run on a file; none if there is no run on it. -/
def lastMessages (file : Text) (analyses : List (Analysis checker)) : List Text :=
  lastLines file (analyses.map run)

/-- The findings hold the files of the runs, and in each file the messages of the last run on it as
often as they were said. They list no other messages. -/
structure AreHeldBy (analyses : List (Analysis checker)) (findings : Findings) : Prop where
  contains_iff : ∀ file, findings.contains file = true ↔
    ∃ analysis ∈ analyses, analysis.file.text = file
  count_eq : ∀ file message,
    findings.count file message = (lastMessages file analyses).count message
  positive : findings.IsPositive

/-- A checker that was not run has no findings, and one that was run has those of its runs. -/
def AreToldBy (analyses : List (Analysis checker)) : Option Findings → Prop
  | none => analyses = []
  | some findings => analyses ≠ [] ∧ AreHeldBy analyses findings

theorem AreHeldBy.unique {findings other : Findings} (h : AreHeldBy analyses findings)
    (h' : AreHeldBy analyses other) : findings = other := by
  apply h.positive.eq_of_count_eq h'.positive
  · intro file
    rw [Bool.eq_iff_iff, h.contains_iff, h'.contains_iff]
  · intro file message
    rw [h.count_eq, h'.count_eq]

theorem areToldBy_nil_iff {findings? : Option Findings} :
    AreToldBy ([] : List (Analysis checker)) findings? ↔ findings? = none := by
  cases findings? with
  | none => exact iff_of_true rfl rfl
  | some findings => exact iff_of_false (fun h => h.1 rfl) nofun

theorem areToldBy_iff_of_ne_nil {findings? : Option Findings} (h : analyses ≠ []) :
    AreToldBy analyses findings? ↔
      ∃ findings, findings? = some findings ∧ AreHeldBy analyses findings := by
  cases findings? with
  | none => exact iff_of_false h nofun
  | some findings =>
    constructor
    · exact fun htold => ⟨findings, rfl, htold.2⟩
    · rintro ⟨_, ⟨⟩, hheld⟩
      exact ⟨h, hheld⟩

theorem AreToldBy.unique {findings? other? : Option Findings} (h : AreToldBy analyses findings?)
    (h' : AreToldBy analyses other?) : findings? = other? := by
  -- a checker that was not run is told apart from one that found nothing
  by_cases hnil : analyses = []
  · subst hnil
    rw [areToldBy_nil_iff.mp h, areToldBy_nil_iff.mp h']
  · obtain ⟨findings, rfl, hheld⟩ := (areToldBy_iff_of_ne_nil hnil).mp h
    obtain ⟨other, rfl, hheld'⟩ := (areToldBy_iff_of_ne_nil hnil).mp h'
    rw [hheld.unique hheld']

end Analysis

/-! ## The compilation -/

namespace Making

variable (making : Making)

/-- How many diagnostics of the severity there are. -/
def count (severity : Severity) : Nat :=
  making.diagnostics.countP (·.severity = severity)

/-- How many diagnostics of the severity the file has. -/
def countIn (severity : Severity) (file : Text) : Nat :=
  making.diagnostics.countP fun diagnostic =>
    diagnostic.severity = severity ∧ diagnostic.file = file

/-- The compilation tells how it ended, and how many diagnostics there are, in all and in each file
that has any. -/
structure IsToldBy (compilation : Compilation) : Prop where
  status_eq : compilation.status =
    if making.isCompleted ∧ making.count .error = 0 then .passed else .failed
  count_eq : ∀ severity, compilation.count severity = some (making.count severity)
  files_eq : ∀ severity, ∃ files, compilation.files severity = some files ∧ ∀ file,
    files.get? file =
      if making.countIn severity file = 0 then none else some (making.countIn severity file)

variable {making}

theorem IsToldBy.unique {compilation other : Compilation} (h : making.IsToldBy compilation)
    (h' : making.IsToldBy other) : compilation = other := by
  apply Compilation.eq_of_files_eq
  · rw [h.status_eq, h'.status_eq]
  · intro severity
    rw [h.count_eq, h'.count_eq]
  · intro severity
    obtain ⟨files, hsome, hget⟩ := h.files_eq severity
    obtain ⟨files', hsome', hget'⟩ := h'.files_eq severity
    rw [hsome, hsome', Index.ext_get? fun file => (hget file).trans (hget' file).symm]

end Making

/-! ## The build -/

namespace Build

/-- Each part of the record tells what is known of the build. -/
structure IsToldBy (build : Build) (record : BuildRecord) : Prop where
  changedFiles : record.changedFiles = build.changedFiles.map FileName.text
  veraSetup : record.veraSetup = build.veraSetup.status
  cppcheckSetup : record.cppcheckSetup = build.cppcheckSetup.status
  clangFormatSetup : record.clangFormatSetup = build.clangFormatSetup.status
  vera : Analysis.AreToldBy build.vera record.vera
  cppcheck : Analysis.AreToldBy build.cppcheck record.cppcheck
  clangFormat : Analysis.AreToldBy build.clangFormat record.clangFormat
  pep8 : Analysis.AreToldBy build.pep8 record.pep8
  configuration : record.configuration = build.configuration.status
  compilation : ∀ making ∈ build.compilation, making.IsToldBy record.compilation
  compilation_eq : build.compilation = none → record.compilation = {}
  installation : record.installation = build.installation.status
  tests : record.tests = (build.tests.map TestCounts.testRun).getD {}
  isUploaded : record.isUploaded = build.isUploaded

/-- **A build is told by one record at most.** -/
theorem IsToldBy.unique {build : Build} {record other : BuildRecord} (h : build.IsToldBy record)
    (h' : build.IsToldBy other) : record = other := by
  have hcompilation : record.compilation = other.compilation := by
    cases hmaking : build.compilation with
    | none => rw [h.compilation_eq hmaking, h'.compilation_eq hmaking]
    | some making => exact (h.compilation making hmaking).unique (h'.compilation making hmaking)
  -- field by field: what is known of the build fixes each part of its record
  apply BuildRecord.ext
  · rw [h.changedFiles, h'.changedFiles]
  · rw [h.veraSetup, h'.veraSetup]
  · rw [h.cppcheckSetup, h'.cppcheckSetup]
  · rw [h.clangFormatSetup, h'.clangFormatSetup]
  · exact h.vera.unique h'.vera
  · exact h.cppcheck.unique h'.cppcheck
  · exact h.clangFormat.unique h'.clangFormat
  · exact h.pep8.unique h'.pep8
  · rw [h.configuration, h'.configuration]
  · exact hcompilation
  · rw [h.installation, h'.installation]
  · rw [h.tests, h'.tests]
  · rw [h.isUploaded, h'.isUploaded]

end Build

end BuildSummary
