import BuildSummary.Findings
import BuildSummary.Text.Blank

/-!
# Static checkers

A checker runs on one file after the other. The build script prints a line with the opening marker
and the file's name before each run, a line with the closing marker after it, and every message of
the checker on a line with its item marker. A checker says where its messages stand in these lines
and which of them are noise.

## Main definitions

* `Placement`: where the message stands in a line
* `Checker`: the markers and rules of a checker
* `Checker.message?`: the message on an item line
* `Checker.scan`: what one line of the log adds
* `Checker.findings?`: what the checker reported in a log
-/

namespace BuildSummary

/-- Where a checker puts the message in its lines. -/
inductive Placement where
  /-- After the last colon. -/
  | afterColons
  /-- From the first opening parenthesis on. -/
  | fromParenthesis
  deriving DecidableEq

/-- The message on a line, without the blanks around it; the whole line if it lacks the sign that
leads the message. -/
def Placement.message (rule : Placement) (line : Text) : Text :=
  match rule with
  | afterColons => Text.trim (line.reverse.takeWhile (· ≠ ':')).reverse
  | fromParenthesis =>
    match line.dropWhile (· ≠ '(') with
    | [] => Text.trim line
    | message => Text.trim message

/-- A static checker as it appears in the log. -/
structure Checker where
  /-- The name in reports. -/
  name : Text
  /-- The markers around each run. -/
  run : Phase
  /-- The marker of message lines. -/
  item : Text
  /-- Where the messages stand. -/
  placement : Placement
  /-- A line in which one of these occurs is noise. -/
  noiseInLines : List Text := []
  /-- A message in which one of these occurs is noise. -/
  noiseInMessages : List Text := []
  deriving DecidableEq

namespace Checker

/-- The message on an item line, unless it is noise. -/
def message? (checker : Checker) (line : Text) : Option Text :=
  if checker.noiseInLines.any (Text.occursIn · line) then none
  else
    let message := checker.placement.message line
    if checker.noiseInMessages.any (Text.occursIn · message) then none else some message

/-- What is known of a checker after some lines of the log. -/
structure Progress where
  /-- What was reported; nothing if no run has begun. -/
  findings : Option Findings := none
  /-- The file of the run that the next line belongs to, if it belongs to one. -/
  file : Option Text := none
  deriving DecidableEq

/-- Reads one line. Inside a run a message line is read as that, whatever else it carries, and a
line that opens a run is not looked at. -/
def scan (checker : Checker) (progress : Progress) (line : Text) : Progress :=
  match progress.file with
  | none =>
    if checker.run.opens line then
      let file := Text.lastWord line
      { findings := some ((progress.findings.getD ∅).begin file), file := some file }
    else progress
  | some file =>
    if checker.item.occursIn line then
      match checker.message? line with
      | some message =>
        { progress with findings := some ((progress.findings.getD ∅).add file message) }
      | none => progress
    else if checker.run.closes line then { progress with file := none }
    else progress

/-- What the checker reported in a log; nothing if no run ever began. -/
def findings? (checker : Checker) (log : List Text) : Option Findings :=
  (log.foldl checker.scan {}).findings

end Checker

end BuildSummary
