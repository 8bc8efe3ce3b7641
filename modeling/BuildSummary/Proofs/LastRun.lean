import Mathlib.Data.List.Induction
import BuildSummary.Proofs.Runs
import BuildSummary.Script

/-!
# The last run on a file

A log is cut into the runs of a checker, and what a file had is dropped when a later run on it
begins. So the last run on a file decides alone: a message counts as often as the item lines of that
run tell it, whatever earlier runs said, whether or not the run is closed, and whichever markers
share a line.

## Main definitions

* `lastLines`: the lines of the last run on a file
* `Checker.tells`: whether a line is an item that tells a message

## Main results

* `lastLines_concat`: a run replaces what is known of its own file and of no other
* `Checker.findings?_of_runs`: the findings of a checker, run by run
-/

namespace BuildSummary

/-- The lines of the last run on a file; none if there is no run on it. -/
def lastLines (file : Text) (runs : List Run) : List Text :=
  ((runs.filter (·.file = file)).getLast?.map (·.lines)).getD []

/-- A run replaces what is known of its own file and of no other. -/
theorem lastLines_concat (file : Text) (runs : List Run) (run : Run) :
    lastLines file (runs ++ [run]) =
      if run.file = file then run.lines else lastLines file runs := by
  unfold lastLines
  rw [List.filter_append]
  by_cases hfile : run.file = file
  · rw [if_pos hfile, List.filter_cons_of_pos (by simpa using hfile), List.filter_nil,
      List.getLast?_concat]
    rfl
  · rw [if_neg hfile, List.filter_cons_of_neg (by simpa using hfile), List.filter_nil,
      List.append_nil]

/-- What is found in a file by runs whose lines are messages are the lines of the last run on it. -/
theorem Findings.count_ofRuns_eq (runs : List Run) (file message : Text) :
    (ofRuns runs).count file message = (lastLines file runs).count message := by
  induction runs using List.reverseRecOn with
  | nil => rfl
  | append_singleton runs run ih =>
    have hlast : ofRuns (runs ++ [run]) = (ofRuns runs).addRun run := by
      unfold ofRuns
      rw [List.foldl_append]
      rfl
    rw [hlast, count_addRun, lastLines_concat]
    by_cases hfile : run.file = file
    · rw [if_pos hfile.symm, if_pos hfile]
    · rw [if_neg (Ne.symm hfile), if_neg hfile, ih]

namespace Checker

/-- Whether the line is an item that tells the message. -/
def tells (checker : Checker) (message line : Text) : Bool :=
  checker.item.occursIn line && checker.message? line = some message

/-- A message stands among those of some lines as often as it is told. -/
theorem count_messagesIn (checker : Checker) (lines : List Text) (message : Text) :
    (checker.messagesIn lines).count message = lines.countP (checker.tells message) := by
  induction lines with
  | nil => rfl
  | cons line rest ih =>
    rw [List.countP_cons, ← ih]
    unfold messagesIn tells
    -- the line is no item, or it is noise, or it has a message
    cases hitem : checker.item.occursIn line with
    | false => simp [hitem]
    | true =>
      cases hmessage : checker.message? line with
      | none => simp [hitem, hmessage]
      | some m =>
        by_cases hm : m = message
        · simp [hitem, hmessage, hm]
        · simp [hitem, hmessage, hm]

/-- Reading the runs commutes with taking the last one on a file. -/
theorem lastLines_map_readRun (checker : Checker) (file : Text) (runs : List Run) :
    lastLines file (runs.map checker.readRun) = checker.messagesIn (lastLines file runs) := by
  induction runs using List.reverseRecOn with
  | nil => rfl
  | append_singleton runs run ih =>
    have hread : (checker.readRun run).file = run.file := rfl
    rw [List.map_append, List.map_singleton, lastLines_concat, lastLines_concat, ih, hread]
    by_cases hfile : run.file = file
    · rw [if_pos hfile, if_pos hfile]
      rfl
    · rw [if_neg hfile, if_neg hfile]

/-- **What a checker found, run by run.** Without a run there are no findings at all. With one, the
files are those of the runs, and a message counts in a file as often as an item line of the last run
on the file tells it. -/
theorem findings?_of_runs (checker : Checker) (log : List Text) :
    (checker.findings? log = none ↔ checker.runs log = []) ∧
      ∀ findings, checker.findings? log = some findings →
        (∀ file, file ∈ findings.files ↔ ∃ run ∈ checker.runs log, run.file = file) ∧
        ∀ file message, findings.count file message =
          (lastLines file (checker.runs log)).countP (checker.tells message) := by
  refine ⟨findings?_eq_none_iff, ?_⟩
  intro findings hfindings
  constructor
  · intro file
    rw [Findings.files, Index.mem_keys_iff]
    exact contains_of_findings?_eq_some hfindings file
  · intro file message
    have hruns : checker.runs log ≠ [] := by
      intro hnil
      rw [findings?_eq_none_iff.mpr hnil] at hfindings
      cases hfindings
    rw [findings?_eq, if_neg hruns] at hfindings
    obtain rfl := Option.some.inj hfindings
    rw [Findings.count_ofRuns_eq, readRuns, lastLines_map_readRun, count_messagesIn]

/-- A second run on the same file, which is not closed. -/
theorem findings?_of_runs_again :
    ∃ log findings, vera.findings? log = some findings ∧ ("a.cpp" : Text) ∈ findings.files ∧
      findings.count "a.cpp" "old" = 0 ∧ findings.count "a.cpp" "new" = 1 := by
  let again : List Text := ["MSGBLD0130: a.cpp", "MSGBLD0135: new"]
  let log : List Text := ["MSGBLD0130: a.cpp", "MSGBLD0135: old", "MSGBLD0140",
    "MSGBLD0130: a.cpp", "MSGBLD0135: new"]
  have hagain : vera.runs again = [⟨"a.cpp", ["MSGBLD0135: new"]⟩] :=
    runs_cons_of_forall (by decide) (by decide)
  have hruns : vera.runs log =
      [⟨"a.cpp", ["MSGBLD0135: old"]⟩, ⟨"a.cpp", ["MSGBLD0135: new"]⟩] := by
    let inside : List Text := ["MSGBLD0135: old"]
    have hinside : ∀ l ∈ inside, vera.endsRun l = false := by decide
    have hclosed : vera.endsRun "MSGBLD0140" = true := by decide
    have hopen : vera.run.opens "MSGBLD0130: a.cpp" = true := by decide
    rw [← hagain]
    exact runs_cons_append hopen hinside hclosed
  obtain ⟨hnone, hsome⟩ := findings?_of_runs vera log
  cases hfindings : vera.findings? log with
  | none =>
    rw [hnone, hruns] at hfindings
    cases hfindings
  | some findings =>
    obtain ⟨hfiles, hcount⟩ := hsome findings hfindings
    rw [hruns] at hfiles hcount
    refine ⟨log, findings, hfindings, ?_, ?_, ?_⟩
    · exact (hfiles _).mpr ⟨_, List.mem_cons_self, rfl⟩
    · exact (hcount _ _).trans (by decide)
    · exact (hcount _ _).trans (by decide)

end Checker

end BuildSummary
