import BuildSummary.CommandLine
import BuildSummary.Report
import BuildSummary.Text.Utf8

/-!
# The program

The program reads the log at a path, prints the report on its build and exits with the verdict. It
prints the whole report or nothing: whatever goes wrong is found before the first line is printed.

## Main definitions

* `PathState`: what a path leads to
* `Failure`: why there is no report
* `Summary.ofLog`, `Summary.ofPath`: a report and its verdict, from a log and from what its path
  leads to
* `Options.validate`: what is checked before a log is read
* `Outcome.ofArguments`: what a run of the program prints, and its exit code
-/

namespace BuildSummary

/-- The lines of a log given by its bytes. -/
def logLines (bytes : List UInt8) : List Text :=
  Text.lines (Utf8.decode bytes)

/-- What a path leads to. -/
inductive PathState where
  | missing
  | directory
  /-- A file that cannot be read. -/
  | unreadable
  /-- A file with the given bytes. -/
  | file (bytes : List UInt8)

/-- Why there is no report. -/
inductive Failure where
  | missingLog
  | directoryAtLog
  | narrowTerminal (width : Nat)
  | unreadableLog
  | malformedCount (e : MalformedCount)
  /-- The C++ checkers ran on different files. -/
  | inconsistentFiles (e : InconsistentFiles)
  deriving DecidableEq

/-- The failure in words. -/
def Failure.message : Failure → Text
  | missingLog => "Build log not found"
  | directoryAtLog => "Build log path is a directory"
  | narrowTerminal width =>
    ("Width " : Text) ++ Text.decimal width ++ (" is too small, need at least " : Text) ++
      Text.decimal minWidth ++ (" columns" : Text)
  | unreadableLog => "Failed to read build log"
  | malformedCount e => e.message
  | inconsistentFiles e => e.message

/-! ## Summaries -/

/-- A report as text and its verdict. -/
structure Summary where
  text : Text
  succeeded : Bool
  deriving DecidableEq

namespace Summary

/-- The summary of a record. -/
def ofRecord (style : TableStyle) (policy : Policy) (record : BuildRecord) :
    Except InconsistentFiles Summary := do
  let report ← Report.ofRecord style policy record
  return { text := report.text style, succeeded := report.succeeded }

/-- The summary of a log. -/
def ofLog (style : TableStyle) (policy : Policy) (log : List Text) : Except Failure Summary :=
  match BuildRecord.ofLog log with
  | .error e => .error (.malformedCount e)
  | .ok record => (ofRecord style policy record).mapError .inconsistentFiles

/-- The summary of the log to which a path leads. -/
def ofPath (style : TableStyle) (policy : Policy) (path : PathState) : Except Failure Summary :=
  match path with
  | .file bytes => ofLog style policy (logLines bytes)
  | .missing | .directory | .unreadable => .error .unreadableLog

end Summary

/-- Checks the options before the log is read: the path first, then the width. -/
def Options.validate (options : Options) (path : PathState) : Except Failure Unit :=
  match path with
  | .missing => .error .missingLog
  | .directory => .error .directoryAtLog
  | .unreadable | .file _ =>
    if options.width < minWidth then .error (.narrowTerminal options.width) else .ok ()

/-! ## Runs of the program -/

/-- What a run of the program leaves behind. -/
structure Outcome where
  /-- The exit code. -/
  exitCode : Nat
  /-- What is printed on standard output. -/
  output : Text := []
  /-- What is printed on standard error. -/
  complaint : Text := []
  deriving DecidableEq

/-- The program's name and version. -/
def versionText : Text := "logsift 0.1.5\n"

/-- The words in which the command line speaks for itself. They are not this library's: whoever runs
the program gives them. -/
structure Manual where
  /-- How the program is used. -/
  help : Text := []
  /-- What is wrong with the arguments. -/
  complaint : UsageError → Text := fun _ => []

namespace Outcome

/-- The outcome if the arguments give no options. -/
def ofInterruption (manual : Manual) : Interruption → Outcome
  | .help => { exitCode := 0, output := manual.help }
  | .version => { exitCode := 0, output := versionText }
  | .refused e => { exitCode := 2, complaint := manual.complaint e }

/-- The summary for the options. -/
def summary (options : Options) (path : PathState) : Except Failure Summary := do
  options.validate path
  Summary.ofPath (.bordered options.width) options.policy path

/-- The outcome for a summary, if there is one. -/
def ofSummary : Except Failure Summary → Outcome
  | .ok summary =>
    { exitCode := exitCodeOf summary.succeeded, output := summary.text ++ ['\n'] }
  | .error e => { exitCode := 1, complaint := e.message ++ ['\n'] }

/-- The outcome for the options, given what the path of the log leads to. -/
def ofOptions (options : Options) (path : PathState) : Outcome :=
  ofSummary (summary options path)

/-- The outcome for the arguments, given what each path leads to. -/
def ofArguments (arguments : List Text) (states : Text → PathState) (manual : Manual := {}) :
    Outcome :=
  match Options.parse arguments with
  | .error interruption => ofInterruption manual interruption
  | .ok options => ofOptions options (states options.logFile)

end Outcome

end BuildSummary
