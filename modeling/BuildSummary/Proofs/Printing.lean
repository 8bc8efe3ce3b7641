import BuildSummary.Proofs.Parts
import BuildSummary.Proofs.Runs
import BuildSummary.Text.Lines

/-!
# The log that a build prints

What the build script prints for a build of which everything is known, in the order of the marker
numbers. A text that the script copies into its log must leave the rest of the log readable: no text
holds a marker, and what a reader cuts off is not part of what it is to find. Each kind of text is a
structure that says so, with proofs that are found by evaluation where the text is known. The words
that follow a marker for the human reader only are left open: they are a `Wording`.

## Main definitions

* `scriptMarkers`, `Text.IsUnmarked`: the markers of the script, and the texts that hold none
* `FileName`, `Remark`, `Message`, `Diagnostic`: the texts in a log
* `Wording`: the words after the markers
* `Build`: all that is known of a build
* `Build.print`: the log of a build
-/

namespace BuildSummary

/-! ## The markers -/

/-- The stretches of a log: the parts of the build, the changed files, and the upload. -/
inductive Section where
  | part (part : Part)
  | changes
  | upload
  deriving DecidableEq

namespace Section

/-- The sections in the order of their markers. -/
def all : List Section :=
  [part .veraSetup, part .cppcheckSetup, part .clangFormatSetup, changes, part .vera,
    part .cppcheck, part .clangFormat, part .pep8, part .configuration, part .compilation,
    part .installation, part .testing, upload]

/-- The sections that the lines of a compilation may reach over: its own, and those after it. -/
def fromCompilation : List Section :=
  [part .compilation, part .installation, part .testing, upload]

/-- The markers that the lines of a section carry. -/
def markers : Section → List Text
  | .part p => p.markers
  | .changes => [Phase.changes.opening, Phase.changes.closing, changedFileItem]
  | .upload => [uploadSkipped]

end Section

/-- The markers of the script. -/
def scriptMarkers : List Text :=
  Section.all.flatMap Section.markers

/-- No marker occurs in the text. -/
def Text.IsUnmarked (text : Text) : Prop :=
  ∀ marker ∈ scriptMarkers, marker.occursIn text = false

instance : DecidablePred Text.IsUnmarked := fun text =>
  inferInstanceAs (Decidable (∀ marker ∈ scriptMarkers, marker.occursIn text = false))

/-! ## The texts in a log -/

/-- A text under a label. -/
def Text.labelled (label text : Text) : Text :=
  label ++ ':' :: ' ' :: text

/-- A place in a file. -/
def Text.place (file : Text) (n : Nat) : Text :=
  file ++ ':' :: Text.decimal n

/-- The name of a file: one word without a marker. -/
structure FileName where
  text : Text
  isWord : text.IsWord := by decide
  unmarked : text.IsUnmarked := by decide +kernel

/-- Words for the human reader after a marker: a line without a marker. -/
structure Remark where
  text : Text
  isLine : text.IsLine := by decide
  unmarked : text.IsUnmarked := by decide +kernel

/-- What the script says on lines of which only the marker counts. -/
structure Wording where
  /-- After the markers of phases and that of the upload. -/
  remark : (marker : Text) → Remark
  /-- After a run of a checker on a file. -/
  runEnd : (checker : Checker) → (file : FileName) → Remark
  /-- From the compilation on, the words are not taken for a diagnostic. -/
  untagged : ∀ s ∈ Section.fromCompilation, ∀ marker ∈ s.markers, ∀ severity : Severity,
    severity.tag.occursIn (':' :: ' ' :: (remark marker).text) = false
  /-- After the tests, the words are not taken for a count. -/
  unlabelled : ∀ count : TestCount,
    count.label.occursIn (remark Phase.testing.closing).text = false

/-- Whether the message can be told from the place in a file that it is about. -/
def Placement.Separates (rule : Placement) (file message : Text) : Prop :=
  match rule with
  | .afterColons => ':' ∉ message
  | .fromParenthesis => '(' ∉ file ∧ message.head? = some '('

instance (rule : Placement) (file message : Text) : Decidable (rule.Separates file message) :=
  match rule with
  | .afterColons => inferInstanceAs (Decidable (':' ∉ message))
  | .fromParenthesis => inferInstanceAs (Decidable ('(' ∉ file ∧ message.head? = some '('))

/-- A message of a checker on a line of a file: a line without a marker and without blanks around
it. -/
structure Message (checker : Checker) (file : FileName) where
  lineNumber : Nat
  text : Text
  trimmed : Text.trim text = text := by decide
  not_newline : '\n' ∉ text := by decide
  unmarked : text.IsUnmarked := by decide +kernel
  /-- It stands where the checker puts its messages. -/
  separated : checker.placement.Separates file.text text := by decide
  /-- The line is not taken for noise. -/
  not_noise_line : ∀ noise ∈ checker.noiseInLines,
    noise.occursIn file.text = false ∧ noise.occursIn text = false := by decide
  /-- The message is not taken for noise. -/
  not_noise_message : ∀ noise ∈ checker.noiseInMessages,
    noise.occursIn text = false := by decide

/-- A run of a checker on a file, with its messages. -/
structure Analysis (checker : Checker) where
  file : FileName
  messages : List (Message checker file)

/-- A diagnostic of the compiler. Its file and its words fit on a line and have no marker. -/
structure Diagnostic where
  severity : Severity
  file : Text
  lineNumber : Nat
  column : Nat
  text : Text
  /-- The file ends at the first colon. -/
  file_not_colon : ':' ∉ file := by decide
  file_not_newline : '\n' ∉ file := by decide
  file_unmarked : file.IsUnmarked := by decide +kernel
  isLine : text.IsLine := by decide
  unmarked : text.IsUnmarked := by decide +kernel
  /-- The words are not taken for another diagnostic. -/
  untagged : ∀ severity' ≠ severity,
    severity'.tag.occursIn (':' :: ' ' :: text) = false := by rintro (_ | _) <;> decide

/-! ## Builds -/

/-- How far a phase got: it never began, it began, or it also ended. -/
inductive Extent where
  | absent
  | started
  | completed
  deriving DecidableEq

/-- A compilation that began: whether it ended, and what the compiler said. -/
structure Making where
  isCompleted : Bool
  diagnostics : List Diagnostic

/-- The counts of a test suite that was run to its end: all tests and the failed ones. -/
structure TestCounts where
  total : UInt64
  failed : UInt64

/-- All that is known of a build: how far each phase got, and what was said in it. A checker without
an analysis was not run. -/
structure Build where
  veraSetup : Extent
  cppcheckSetup : Extent
  clangFormatSetup : Extent
  changedFiles : List FileName
  vera : List (Analysis .vera)
  cppcheck : List (Analysis .cppcheck)
  clangFormat : List (Analysis .clangFormat)
  pep8 : List (Analysis .pep8)
  configuration : Extent
  compilation : Option Making
  installation : Extent
  tests : Option TestCounts
  isUploaded : Bool

/-! ## Printing -/

variable (wording : Wording)

/-- A line with a marker. -/
def Wording.line (marker : Text) : Text :=
  marker.labelled (wording.remark marker).text

/-- The lines of a phase of which only the extent is known. -/
def Extent.lines (phase : Phase) : Extent → List Text
  | absent => []
  | started => [wording.line phase.opening]
  | completed => [wording.line phase.opening, wording.line phase.closing]

/-- The line that lists a changed file. -/
def FileName.changeLine (file : FileName) : Text :=
  changedFileItem.labelled (("File changed: " : Text) ++ file.text)

/-- What stands on a message line between the marker and the message. -/
def Checker.lead (checker : Checker) (file : Text) (n : Nat) : Text :=
  match checker.placement with
  | .afterColons => ("[" : Text) ++ checker.name ++ ("] " : Text) ++ file.place n
  | .fromParenthesis => ("[CPPCHECK] [" : Text) ++ file.place n ++ ("]" : Text)

/-- The line of a message. -/
def Message.line {checker : Checker} {file : FileName} (message : Message checker file) : Text :=
  checker.item.labelled ((checker.lead file.text message.lineNumber).labelled message.text)

namespace Analysis

variable {checker : Checker} (analysis : Analysis checker)

/-- The line before a run. -/
def openingLine : Text :=
  checker.run.opening.labelled
    (("Running " : Text) ++ checker.name ++ (" for " : Text) ++ analysis.file.text)

/-- The line after a run. -/
def closingLine : Text :=
  checker.run.closing.labelled (wording.runEnd checker analysis.file).text

/-- The lines of a run. -/
def lines : List Text :=
  analysis.openingLine :: (analysis.messages.map Message.line ++ [analysis.closingLine wording])

end Analysis

/-- How the compiler calls a severity. -/
def Severity.word : Severity → Text
  | error => "error"
  | warning => "warning"

/-- The line of a diagnostic. -/
def Diagnostic.line (diagnostic : Diagnostic) : Text :=
  ((diagnostic.file.place diagnostic.lineNumber).place diagnostic.column).labelled
    (diagnostic.severity.word.labelled diagnostic.text)

/-- The lines of a compilation. -/
def Making.lines (making : Making) : List Text :=
  wording.line Phase.compilation.opening :: (making.diagnostics.map Diagnostic.line ++
    if making.isCompleted then [wording.line Phase.compilation.closing] else [])

namespace TestCounts

variable (counts : TestCounts)

/-- The value of a count. -/
def value : TestCount → Nat
  | .total => counts.total.toNat
  | .failed => counts.failed.toNat

/-- The line that tells how many tests were run. -/
def totalLine : Text :=
  Text.labelled "Total number of tests" (Text.decimal (counts.value .total))

/-- The line that tells how many tests failed. -/
def failedLine : Text :=
  ("Failed " : Text) ++ Text.decimal (counts.value .failed) ++ (" of " : Text) ++
    Text.decimal (counts.value .total)

/-- The line that tells a count. -/
def line : TestCount → Text
  | .total => counts.totalLine
  | .failed => counts.failedLine

/-- The lines of a test suite. -/
def lines : List Text :=
  [wording.line Phase.testing.opening, TestRun.banner, counts.line .total, counts.line .failed,
    wording.line Phase.testing.closing]

end TestCounts

namespace Build

variable (build : Build)

/-- The lines of a section. -/
def sectionLines : Section → List Text
  | .part .veraSetup => build.veraSetup.lines wording .veraSetup
  | .part .cppcheckSetup => build.cppcheckSetup.lines wording .cppcheckSetup
  | .part .clangFormatSetup => build.clangFormatSetup.lines wording .clangFormatSetup
  | .changes => wording.line Phase.changes.opening ::
      (build.changedFiles.map FileName.changeLine ++ [wording.line Phase.changes.closing])
  | .part .vera => build.vera.flatMap (Analysis.lines wording)
  | .part .cppcheck => build.cppcheck.flatMap (Analysis.lines wording)
  | .part .clangFormat => build.clangFormat.flatMap (Analysis.lines wording)
  | .part .pep8 => build.pep8.flatMap (Analysis.lines wording)
  | .part .configuration => build.configuration.lines wording .configuration
  | .part .compilation => build.compilation.toList.flatMap (Making.lines wording)
  | .part .installation => build.installation.lines wording .installation
  | .part .testing => build.tests.toList.flatMap (TestCounts.lines wording)
  | .upload => if build.isUploaded then [] else [wording.line uploadSkipped]

/-- The lines of the log. -/
def lines : List Text :=
  Section.all.flatMap (build.sectionLines wording)

/-- The log. -/
def print : Text :=
  Text.unlines (build.lines wording)

end Build

end BuildSummary
