import BuildSummary.Table
import BuildSummary.Text.Number
import BuildSummary.Text.Wrap
import BuildSummary.Verdict

/-!
# The report on a build

A report shows the findings of the static checkers file by file, the compiler's warnings and
errors, and a table of all parts of the build, and ends with the verdict. It is first put together
from the rows of its tables and then written out in a style.

## Main definitions

* `Report`: the tables of a report and the verdict
* `Report.ofRecord`: the report on a record, in a style that says how wide its tables may be
* `Report.text`: the report as text
* `InconsistentFiles`: why there may be no report
-/

namespace BuildSummary

open Text (decimal join)

/-! ## The same files for all C++ checkers -/

/-- Two checkers that ran on different files. -/
structure InconsistentFiles where
  first : Text
  second : Text
  /-- The files that only one of them analysed, ascending. -/
  files : List Text
  deriving DecidableEq

/-- The error in words. -/
def InconsistentFiles.message (e : InconsistentFiles) : Text :=
  e.first ++ (" and " : Text) ++ e.second ++
    (" analyzed different files (only in one of them: " : Text) ++ join ", " e.files ++ [')']

/-- The files that only one of two checkers analysed, ascending. -/
def filesInOne (a b : Findings) : List Text :=
  (Index.ofKeys (a.files.filter (!b.contains ·) ++ b.files.filter (!a.contains ·))).keys

/-- Compares the files of a checker with those of the first one. -/
def compareFiles (first : Checker) (reference : Findings) (checker : Checker)
    (findings : Findings) : Except InconsistentFiles Unit :=
  match filesInOne reference findings with
  | [] => .ok ()
  | files => .error ⟨first.name, checker.name, files⟩

/-- Compares the files of each checker with those of the first, if all of them ran. -/
def checkSameFiles (checkers : List (Checker × Option Findings)) : Except InconsistentFiles Unit :=
  match checkers.mapM fun (checker, findings) => findings.map (checker, ·) with
  | some ((first, reference) :: others) =>
    others.forM fun (checker, findings) => compareFiles first reference checker findings
  | _ => .ok ()

/-! ## Tables of findings -/

/-- What a checker found in a file: a heading and the messages with their counts; nothing if it
found nothing. -/
def findingRows (file : Text) (checker : Checker) (findings : Option Findings) : List Row :=
  match findings with
  | none => []
  | some findings =>
    if findings.fileTotal file = 0 then []
    else
      ⟨checker.name ++ (" (" : Text) ++ checker.item ++ ("):" : Text), "Count"⟩ ::
        (findings.messages file).map fun (message, count) => ⟨message, decimal count⟩

/-- The table of a file: its name, and what each checker found in it; nothing if none found
anything. -/
def fileTable? (checkers : List (Checker × Option Findings)) (file : Text) : Option (List Row) :=
  match checkers.flatMap fun (checker, findings) => findingRows file checker findings with
  | [] => none
  | rows => some (⟨("+ + + " : Text) ++ file ++ (" + + +" : Text), []⟩ :: rows)

/-- The tables of all files that the checkers analysed, the files ascending. -/
def fileTables (checkers : List (Checker × Option Findings)) : List (List Row) :=
  let files := Index.ofKeys (checkers.flatMap fun (_, findings) => (findings.getD ∅).files)
  files.keys.filterMap (fileTable? checkers)

/-- The table of how many diagnostics each file has. -/
def countTable (heading : Text) (counts : Option (Index Nat)) : List Row :=
  ⟨heading, "Count"⟩ ::
    (counts.getD ∅).entries.map fun (file, count) => ⟨file, decimal count⟩

/-! ## The table of the build -/

/-- A count that may be missing. -/
def optionalCount (count : Option Nat) : Text :=
  match count with
  | none => "n/a"
  | some count => decimal count

/-- What is said of a checker's findings. -/
def findingsText (checker : Checker) (findings : Option Findings) : Text :=
  (Findings.statusOf findings).text ++ ("\n\nNumber of messages (" : Text) ++ checker.item ++
    ("): " : Text) ++ decimal (Findings.totalOf findings)

/-- What is said of the compilation. -/
def compilationText (compilation : Compilation) : Text :=
  compilation.status.text ++ ("\n\nErrors  : " : Text) ++ optionalCount compilation.errorCount ++
    ("\nWarnings: " : Text) ++ optionalCount compilation.warningCount

/-- What is said of the tests. -/
def testsText (tests : TestRun) : Text :=
  tests.status.text ++ ("\n\nTotal number of tests : " : Text) ++ optionalCount tests.total ++
    ("\nNumber of tests failed: " : Text) ++ optionalCount tests.failed

/-- What is said of the upload. -/
def uploadText (isUploaded : Bool) : Text :=
  if isUploaded then "Yes" else "No"

/-- The label of Cppcheck, which says whether it is a gate. -/
def Policy.cppcheckLabel (policy : Policy) : Text :=
  if policy.gateCppcheck then Checker.cppcheck.name
  else Checker.cppcheck.name ++ (" (DEACTIVATED)" : Text)

/-- The rows of the table of the build, with the given text for the changed files. -/
def buildRows (policy : Policy) (record : BuildRecord) (changedFiles : Text) : List Row :=
  [⟨"Changed Files :", []⟩,
    ⟨[], changedFiles⟩,
    ⟨"Tools Initialization :", []⟩,
    ⟨Checker.vera.name, record.veraSetup.text⟩,
    ⟨policy.cppcheckLabel, record.cppcheckSetup.text⟩,
    ⟨Checker.clangFormat.name, record.clangFormatSetup.text⟩,
    ⟨"Static Code Analysis :", []⟩,
    ⟨Checker.vera.name, findingsText .vera record.vera⟩,
    ⟨policy.cppcheckLabel, findingsText .cppcheck record.cppcheck⟩,
    ⟨Checker.clangFormat.name, findingsText .clangFormat record.clangFormat⟩,
    ⟨Checker.pep8.name, findingsText .pep8 record.pep8⟩,
    ⟨"NEST Build :", []⟩,
    ⟨"CMake configure", record.configuration.text⟩,
    ⟨"Make", compilationText record.compilation⟩,
    ⟨"Make install", record.installation.text⟩,
    ⟨"Make installcheck", testsText record.tests⟩,
    ⟨"Artifacts :", []⟩,
    ⟨"Amazon S3 upload", uploadText record.isUploaded⟩]

/-- The changed files, wrapped to the room that the table of the build has for them. -/
def changedFilesText (style : TableStyle) (policy : Policy) (record : BuildRecord) : Text :=
  let room := style.room (buildRows policy record []) 1
  join ['\n'] (Wrap.wrap room (join ", " record.changedFiles))

/-! ## The report -/

/-- The tables of a report, each as its rows, and the verdict. A part without tables is left
out. -/
structure Report where
  /-- The findings of the checkers, a table for each file. -/
  findings : List (List Row)
  /-- The compiler's warnings. -/
  warnings : Option (List Row)
  /-- The compiler's errors. -/
  errors : Option (List Row)
  /-- All parts of the build. -/
  build : List Row
  /-- The verdict. -/
  succeeded : Bool
  deriving DecidableEq

namespace Report

/-- The parts of the report on a record. -/
def assemble (style : TableStyle) (policy : Policy) (record : BuildRecord) : Report :=
  let compilation := record.compilation
  { findings :=
      if record.hasFindings then fileTables record.cppCheckers ++ fileTables record.pythonCheckers
      else []
    warnings :=
      if 0 < compilation.warningCount.getD 0 then
        some (countTable "Warnings in file:" compilation.warnings)
      else none
    errors :=
      if 0 < compilation.errorCount.getD 0 then
        some (countTable "Errors in file:" compilation.errors)
      else none
    build := buildRows policy record (changedFilesText style policy record)
    succeeded := record.succeeds policy }

/-- The report on a record. The files of the C++ checkers are compared only if there are findings
to show. -/
def ofRecord (style : TableStyle) (policy : Policy) (record : BuildRecord) :
    Except InconsistentFiles Report := do
  if record.hasFindings then checkSameFiles record.cppCheckers
  return assemble style policy record

/-- The title of every report. -/
def title : Text :=
  let edge : Text :=
    "    + + + + + + + + + + + + + + + + + + + + + + + + + + + + + + + + + + + + + +"
  let space : Text :=
    "    +                                                                         +"
  let name : Text :=
    "    +        N E S T   T r a v i s   C I   B u i l d   S u m m a r y          +"
  join ['\n'] [[], edge, space, name, space, edge, "    ", [], []]

/-- The part of a report that shows findings. -/
def findingsPart (style : TableStyle) : List (List Row) → Text
  | [] => []
  | tables =>
    ("  S T A T I C   C O D E   A N A L Y S I S\n" : Text) ++
      tables.flatMap fun rows => style.draw rows ++ ['\n']

/-- A part of a report that shows diagnostics. -/
def diagnosticsPart (style : TableStyle) (heading : Text) : Option (List Row) → Text
  | none => []
  | some rows => ['\n'] ++ heading ++ ['\n'] ++ style.draw rows ++ ['\n']

/-- The last line of a report. -/
def verdict (succeeded : Bool) : Text :=
  if succeeded then "BUILD TERMINATED SUCCESSFULLY" else "BUILD FAILED"

/-- The report as text, without a newline at its end. -/
def text (style : TableStyle) (report : Report) : Text :=
  title ++ findingsPart style report.findings ++
    diagnosticsPart style "  W A R N I N G S" report.warnings ++
    diagnosticsPart style "  E R R O R S" report.errors ++
    ("\n\n  B U I L D   R E P O R T\n" : Text) ++ style.draw report.build ++ ("\n\n" : Text) ++
    verdict report.succeeded

end Report

end BuildSummary
