import BuildSummary.Index
import BuildSummary.Phase

/-!
# Compiler diagnostics

Errors and warnings that the compiler prints while the project is made. A diagnostic is a line
that carries the tag of its severity; it belongs to the file named before the first colon.

## Main definitions

* `Severity`: errors and warnings
* `Compilation`: the diagnostics of a phase, and what became of it
* `Compilation.scan`: what the lines of a log add to what is known of it
* `Compilation.ofLog`: what a log tells of it
-/

namespace BuildSummary

/-- How grave a diagnostic is. -/
inductive Severity where
  /-- The file was not compiled. -/
  | error
  /-- The file was compiled. -/
  | warning
  deriving DecidableEq

/-- The tag that a diagnostic carries. -/
def Severity.tag : Severity → Text
  | error => ": error:"
  | warning => ": warning:"

/-- What became of the compilation. The counts are missing if it never began. -/
structure Compilation where
  /-- Passed if the phase was completed without an error. -/
  status : Status := .skipped
  /-- How many errors there are. -/
  errorCount : Option Nat := none
  /-- How many errors each file has. -/
  errors : Option (Index Nat) := none
  /-- How many warnings there are. -/
  warningCount : Option Nat := none
  /-- How many warnings each file has. -/
  warnings : Option (Index Nat) := none
  deriving DecidableEq

namespace Compilation

/-- The file to which a diagnostic belongs. -/
def fileOf (diagnostic : Text) : Text :=
  diagnostic.takeWhile (· ≠ ':')

/-- A diagnostic belongs to the file before its first colon. -/
theorem fileOf_append_cons {file : Text} (h : ':' ∉ file) (rest : Text) :
    fileOf (file ++ ':' :: rest) = file := by
  have hfile : ∀ c ∈ file, decide (c ≠ ':') = true := by
    intro c hc
    exact decide_eq_true fun hcolon => h (hcolon ▸ hc)
  rw [fileOf, List.takeWhile_append_of_pos hfile, List.takeWhile_cons_of_neg (by decide),
    List.append_nil]

theorem not_colon_fileOf (line : Text) : ':' ∉ fileOf line := by
  intro hmem
  simpa using List.all_eq_true.mp List.all_takeWhile ':' hmem

/-- The diagnostics of a severity that were counted. -/
structure Tally where
  /-- How many there are. -/
  count : Nat := 0
  /-- How many each file has. -/
  perFile : Index Nat := ∅
  deriving DecidableEq

/-- Counts a line that carries the tag of the severity. -/
def Tally.read (severity : Severity) (tally : Tally) (line : Text) : Tally :=
  if severity.tag.occursIn line then
    { count := tally.count + 1, perFile := tally.perFile.increment (fileOf line) }
  else tally

/-- What is known of a compilation after some lines of the log. -/
structure Progress where
  /-- Whether its phase was opened. -/
  hasBegun : Bool := false
  /-- Whether its phase was closed. -/
  isCompleted : Bool := false
  errors : Tally := {}
  warnings : Tally := {}
  deriving DecidableEq

/-- Reads a line of the phase. A line that carries both tags counts twice. -/
def Progress.read (progress : Progress) (line : Text) : Progress :=
  { progress with
    errors := progress.errors.read .error line
    warnings := progress.warnings.read .warning line }

/-- Reads the lines of a log: those before the opening are passed over, and nothing is read after
the closing. The lines of the opening and of the closing are read as well. -/
def scan (phase : Phase) (progress : Progress) : List Text → Progress
  | [] => progress
  | line :: rest =>
    if progress.hasBegun || phase.opens line then
      let after := { progress with hasBegun := true }.read line
      if phase.closes line then { after with isCompleted := true } else scan phase after rest
    else scan phase progress rest

/-- What is known of a compilation once its log was read. -/
def Progress.compilation (progress : Progress) : Compilation :=
  if progress.hasBegun then
    { status := .ofSuccess (progress.isCompleted && progress.errors.count = 0)
      errorCount := some progress.errors.count
      errors := some progress.errors.perFile
      warningCount := some progress.warnings.count
      warnings := some progress.warnings.perFile }
  else {}

/-- What the lines of a log tell of a compilation in the given phase. -/
def ofLog (phase : Phase) (log : List Text) : Compilation :=
  (scan phase {} log).compilation

end Compilation

end BuildSummary
