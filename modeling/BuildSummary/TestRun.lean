import BuildSummary.Phase
import BuildSummary.Text.Blank
import BuildSummary.Text.Number
import BuildSummary.Text.Quoted

/-!
# The test suite

The test suite prints a summary that begins with a banner and tells how many tests were run and how
many of them failed. A count in the summary that cannot be read makes the whole log unreadable,
since nothing can be said of the tests then.

## Main definitions

* `TestRun`: the counts, and what became of the test suite
* `MalformedCount`: a count that cannot be read
* `TestRun.scan`: what the lines of a log add to what is known of the test suite
* `TestRun.ofLog`: what a log tells of the test suite
-/

namespace BuildSummary

/-- The counts of a test summary. -/
inductive TestCount where
  /-- How many tests were run. -/
  | total
  /-- How many of them failed. -/
  | failed
  deriving DecidableEq

namespace TestCount

/-- The label of the line that holds the count. -/
def label : TestCount → Text
  | total => "Total number of tests:"
  | failed => "Failed"

/-- What messages call the count. -/
def description : TestCount → Text
  | total => "total number of tests"
  | failed => "number of failed tests"

/-- The count on a line that carries the label: the last word for the total, and the first word of
digits for the failed tests. -/
def read? (count : TestCount) (line : Text) : Option Nat :=
  match count with
  | total => Text.number? (Text.lastWord line)
  | failed => (Text.words line).find? Text.isDigits >>= Text.digits?

end TestCount

/-- A count in a test summary that cannot be read. -/
structure MalformedCount where
  /-- The count that is missing or too large. -/
  count : TestCount
  /-- The number of its line in the log, from 1. -/
  lineNumber : Nat
  /-- Its line. -/
  line : Text
  deriving DecidableEq

/-- The error in words. -/
def MalformedCount.message (e : MalformedCount) : Text :=
  ("Malformed " : Text) ++ e.count.description ++ (" on line " : Text) ++
    Text.decimal e.lineNumber ++ (": " : Text) ++ Text.quoted e.line

/-- What became of the test suite. Counts that the summary does not tell are missing. -/
structure TestRun where
  /-- Passed if the phase was completed and no test failed. -/
  status : Status := .skipped
  /-- How many tests were run. -/
  total : Option Nat := none
  /-- How many of them failed. -/
  failed : Option Nat := none
  deriving DecidableEq

namespace TestRun

/-- The line with which the summary begins. -/
def banner : Text := "NEST Testsuite Summary"

/-- The given count on a line, `current` if the line does not carry its label. -/
def readCount (count : TestCount) (current : Option Nat) (line : Text) (number : Nat) :
    Except MalformedCount (Option Nat) :=
  if count.label.occursIn line then
    match count.read? line with
    | some n => .ok (some n)
    | none => .error ⟨count, number, line⟩
  else .ok current

/-- The counts after one more line of the summary. A later line overrides an earlier one. -/
def readLine (run : TestRun) (numbered : Text × Nat) : Except MalformedCount TestRun := do
  let (line, number) := numbered
  let total ← readCount .total run.total line number
  let failed ← readCount .failed run.failed line number
  return { run with total, failed }

/-- What is known of a test suite after some lines of the log. -/
structure Progress where
  /-- Whether its phase was opened. -/
  hasBegun : Bool := false
  /-- Whether its summary has begun. -/
  inSummary : Bool := false
  /-- Whether its phase was closed. -/
  isCompleted : Bool := false
  /-- The counts so far. -/
  run : TestRun := {}
  deriving DecidableEq

/-- Reads a line of the phase. Counts are looked for in the summary only. -/
def Progress.read (progress : Progress) (numbered : Text × Nat) :
    Except MalformedCount Progress := do
  let inSummary := progress.inSummary || Text.trim numbered.1 = banner
  if inSummary then
    let run ← readLine progress.run numbered
    return { progress with inSummary, run }
  else return progress

/-- Reads the lines of a log, the first of which has the given number: those before the opening are
passed over, and nothing is read after the closing. The lines of the opening and of the closing are
read as well. -/
def scan (phase : Phase) (progress : Progress) (number : Nat) :
    List Text → Except MalformedCount Progress
  | [] => .ok progress
  | line :: rest =>
    if progress.hasBegun || phase.opens line then do
      let after ← { progress with hasBegun := true }.read (line, number)
      if phase.closes line then return { after with isCompleted := true }
      else scan phase after (number + 1) rest
    else scan phase progress (number + 1) rest

/-- What is known of a test suite once its log was read. -/
def Progress.testRun (progress : Progress) : TestRun :=
  if progress.hasBegun then
    { progress.run with
      status := .ofSuccess (progress.isCompleted && progress.run.failed = some 0) }
  else {}

/-- What the lines of a log tell of a test suite in the given phase. -/
def ofLog (phase : Phase) (log : List Text) : Except MalformedCount TestRun := do
  return (← scan phase {} 1 log).testRun

end TestRun

/-- Two steps that may fail succeed if and only if the first does, and the second on its result. -/
theorem bind_eq_ok_iff {ε α β : Type} {x : Except ε α} {f : α → Except ε β} {b : β} :
    x >>= f = .ok b ↔ ∃ a, x = .ok a ∧ f a = .ok b := by
  cases x <;> simp [bind, Except.bind]

/-- Two steps that may fail do so if and only if one of them does, the second on the result of the
first. -/
theorem bind_eq_error_iff {ε α β : Type} {x : Except ε α} {f : α → Except ε β} {e : ε} :
    x >>= f = .error e ↔ x = .error e ∨ ∃ a, x = .ok a ∧ f a = .error e := by
  cases x <;> simp [bind, Except.bind]

/-- What an error is turned into does not matter for success. -/
theorem mapError_eq_ok_iff {ε ε' α : Type} {x : Except ε α} {f : ε → ε'} {a : α} :
    x.mapError f = .ok a ↔ x = .ok a := by
  cases x with
  | error e => exact ⟨nofun, nofun⟩
  | ok b =>
    constructor
    · rintro ⟨⟩
      rfl
    · rintro ⟨⟩
      rfl

end BuildSummary
