import BuildSummary.Checker
import BuildSummary.Proofs.History

/-!
# Where findings come from

A scan of a log takes the steps of a history: a run is opened on a file, or a message of the checker
stands on an item line. So whatever is found was named or told by a line of the log.

## Main definitions

* `Checker.Names`, `Checker.Tells`: a line opens a run on a file, or is an item with a message
* `Checker.Justifies`: the lines of the log give rise to a step
* `Checker.Progress.IsFrom`: what is known of a checker comes from steps that the log justifies

## Main results

* `Checker.Progress.IsFrom.scan`: one more line of the log
* `Checker.exists_history_of_findings?`: the findings in a log
-/

namespace BuildSummary.Checker

open Findings (Step ofHistory)

variable {checker : Checker} {log : List Text} {progress : Progress}

/-- A line of the log opens a run on the file. -/
def Names (checker : Checker) (log : List Text) (file : Text) : Prop :=
  ∃ line ∈ log, checker.run.opens line = true ∧ Text.lastWord line = file

/-- A line of the log is an item with the message. -/
def Tells (checker : Checker) (log : List Text) (message : Text) : Prop :=
  ∃ line ∈ log, checker.item.occursIn line = true ∧ checker.message? line = some message

/-- The file of the step is named in the log, and a message that occurs is told there. -/
structure Justifies (checker : Checker) (log : List Text) (step : Step) : Prop where
  file : checker.Names log step.file
  message : ∀ file message, step = .occurs file message → checker.Tells log message

/-- What is known of the checker comes from steps that the log justifies. -/
structure Progress.IsFrom (checker : Checker) (log : List Text) (progress : Progress) : Prop where
  findings : ∀ findings ∈ progress.findings, ∃ history, findings = ofHistory history ∧
    ∀ step ∈ history, checker.Justifies log step
  file : ∀ file ∈ progress.file, checker.Names log file

/-- Findings that are not there yet are those of no steps. -/
theorem Progress.IsFrom.exists_history (h : progress.IsFrom checker log) :
    ∃ history, progress.findings.getD ∅ = ofHistory history ∧
      ∀ step ∈ history, checker.Justifies log step := by
  cases hfindings : progress.findings with
  | none => exact ⟨[], rfl, nofun⟩
  | some findings => exact h.findings findings hfindings

/-- One more step that the log justifies. -/
theorem Progress.IsFrom.take (h : progress.IsFrom checker log) (step : Step)
    (hstep : checker.Justifies log step) :
    ∀ findings ∈ some ((progress.findings.getD ∅).take step), ∃ history,
      findings = ofHistory history ∧ ∀ step ∈ history, checker.Justifies log step := by
  obtain ⟨history, hhistory, hjustified⟩ := h.exists_history
  rintro _ ⟨⟩
  refine ⟨history ++ [step], ?_, ?_⟩
  · rw [Findings.ofHistory_concat, hhistory]
  · rw [List.forall_mem_append, List.forall_mem_singleton]
    exact ⟨hjustified, hstep⟩

/-- **One more line of the log.** -/
theorem Progress.IsFrom.scan (h : progress.IsFrom checker log) {line : Text} (hline : line ∈ log) :
    (checker.scan progress line).IsFrom checker log := by
  unfold Checker.scan
  cases hfile : progress.file with
  | none =>
    simp only
    split
    · rename_i hopens
      have hnames : checker.Names log (Text.lastWord line) := ⟨line, hline, hopens, rfl⟩
      refine ⟨h.take (.begins (Text.lastWord line)) ⟨hnames, nofun⟩, ?_⟩
      rintro _ ⟨⟩
      exact hnames
    · exact h
  | some file =>
    simp only
    split
    · rename_i hitem
      split
      · rename_i message hmessage
        refine ⟨h.take (.occurs file message) ⟨h.file file hfile, ?_⟩, hfile ▸ h.file⟩
        rintro _ _ ⟨⟩
        exact ⟨line, hline, hitem, hmessage⟩
      · exact h
    · split
      · exact ⟨h.findings, nofun⟩
      · exact h

/-- **The findings in a log** come from steps that the log justifies. -/
theorem exists_history_of_findings? {findings : Findings}
    (h : checker.findings? log = some findings) :
    ∃ history, findings = ofHistory history ∧ ∀ step ∈ history, checker.Justifies log step := by
  have hscan : (log.foldl checker.scan {}).IsFrom checker log :=
    List.foldlRecOn log checker.scan ⟨nofun, nofun⟩ fun _ hprogress _ hline =>
      hprogress.scan hline
  exact hscan.findings findings h

end BuildSummary.Checker
