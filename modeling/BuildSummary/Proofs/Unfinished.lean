import BuildSummary.Proofs.Parts
import BuildSummary.Proofs.Runs
import BuildSummary.Proofs.TestSummary

/-!
# Parts of a build that do not end

A part of the build whose opening marker occurs in the log and whose closing marker does not occur
from there on has not ended. A phase that has not ended failed. The runs of a checker are judged by
their messages alone, and whether the last of them ended is not remembered: a checker that broke
down before its first message passes.

## Main results

* `status_of_unfinished`: when a part that has not ended failed
* `not_forall_unfinished_failed`: a checker that broke down may pass
-/

namespace BuildSummary

variable {phase : Phase} {checker : Checker} {log lines : List Text}

/-! ## Phases -/

/-- A compilation that has not ended failed. -/
theorem Phase.Unfinished.compilation (h : phase.Unfinished log lines) :
    (Compilation.ofLog phase log).status = .failed := by
  obtain ⟨offset, hwindow⟩ := h.window?
  simp [Compilation.ofLog_eq, hwindow, Status.ofSuccess]

/-- Tests that have not ended failed, if their summary can be read. -/
theorem Phase.Unfinished.tests {tests : TestRun} (h : phase.Unfinished log lines)
    (htests : TestRun.ofLog phase log = .ok tests) : tests.status = .failed := by
  obtain ⟨offset, hwindow⟩ := h.window?
  obtain ⟨-, rfl⟩ := (TestRun.ofLog_eq_ok_iff hwindow).mp htests
  rfl

/-! ## Runs of a checker -/

namespace Checker

/-- A checker whose first run has not ended has only that run. -/
theorem runs_of_unfinished (h : checker.run.Unfinished log lines) :
    ∃ file, checker.runs log = [⟨file, lines.tail⟩] := by
  obtain ⟨before, ⟨rfl, hbefore, first, hfirst, hopen⟩, hlines⟩ := h
  obtain ⟨rest, rfl⟩ := List.head?_eq_some_iff.mp hfirst
  rw [List.forall_mem_cons] at hlines
  refine ⟨Text.lastWord first, ?_⟩
  rw [runs_append_of_not_opens hbefore, runs_cons_of_forall hopen, List.tail_cons]
  intro line hline
  simp [endsRun, hlines.2 line hline]

/-- The only run is the last one on its file. -/
theorem totalOf_findings?_of_runs_eq_singleton {run : Run} (h : checker.runs log = [run]) :
    Findings.totalOf (checker.findings? log) = 0 ↔ checker.messagesIn run.lines = [] := by
  rw [totalOf_findings?_eq_zero_iff, h]
  constructor
  · intro hnone
    exact hnone run ⟨[], [], rfl, by simp⟩
  · rintro hnone last ⟨before, after, hsplit, -⟩
    obtain rfl : run = last := by
      have hmem : last ∈ [run] := hsplit ▸ List.mem_append_right before List.mem_cons_self
      exact (List.mem_singleton.mp hmem).symm
    exact hnone

/-- A checker that has a run is not skipped, and it failed if and only if it found something. -/
theorem statusOf_findings? (h : checker.runs log ≠ []) :
    Findings.statusOf (checker.findings? log) ≠ .skipped ∧
      (Findings.statusOf (checker.findings? log) = .failed ↔
        Findings.totalOf (checker.findings? log) ≠ 0) := by
  cases hfindings : checker.findings? log with
  | none => exact absurd (findings?_eq_none_iff.mp hfindings) h
  | some findings =>
    simp only [Findings.statusOf, Findings.totalOf, Option.map_some, Option.getD_some]
    cases hzero : findings.total == 0 <;> simp_all [Status.ofSuccess]

/-- **A checker whose first run has not ended** failed if and only if it has a message. -/
theorem statusOf_findings?_of_unfinished (h : checker.run.Unfinished log lines) :
    Findings.statusOf (checker.findings? log) ≠ .skipped ∧
      (Findings.statusOf (checker.findings? log) = .failed ↔
        ∃ line ∈ lines.tail, checker.item.occursIn line = true ∧ checker.message? line ≠ none) := by
  obtain ⟨file, hruns⟩ := runs_of_unfinished h
  have hstatus := statusOf_findings? (hruns ▸ List.cons_ne_nil _ _)
  rw [ne_eq (Findings.totalOf _), totalOf_findings?_of_runs_eq_singleton hruns,
    messagesIn_eq_nil_iff] at hstatus
  simpa using hstatus

end Checker

/-! ## All parts -/

/-- **A part that has not ended** is not skipped. It failed, unless it is the runs of a checker and
no line after the first opening has a message. -/
theorem status_of_unfinished {record : BuildRecord} (h : BuildRecord.ofLog log = .ok record)
    (part : Part) (hpart : part.phase.Unfinished log lines) :
    part.status record ≠ .skipped ∧
      (part.status record = .failed ↔ ∀ checker ∈ part.checker?, ∃ line ∈ lines.tail,
        checker.item.occursIn line = true ∧ checker.message? line ≠ none) := by
  obtain ⟨tests, htests, rfl⟩ := BuildRecord.ofLog_eq_ok_iff.mp h
  -- a phase has no checker, so there is nothing to ask for
  have hphase {status : Status} (hfailed : status = .failed) : status ≠ .skipped ∧
      (status = .failed ↔ ∀ checker ∈ (none : Option Checker), ∃ line ∈ lines.tail,
        checker.item.occursIn line = true ∧ checker.message? line ≠ none) := by
    simp [hfailed]
  have hchecker {checker : Checker} (hrun : checker.run.Unfinished log lines) :
      Findings.statusOf (checker.findings? log) ≠ .skipped ∧
        (Findings.statusOf (checker.findings? log) = .failed ↔
          ∀ checker' ∈ some checker, ∃ line ∈ lines.tail,
            checker'.item.occursIn line = true ∧ checker'.message? line ≠ none) := by
    simpa using Checker.statusOf_findings?_of_unfinished hrun
  cases part with
  | veraSetup => exact hphase hpart.status
  | cppcheckSetup => exact hphase hpart.status
  | clangFormatSetup => exact hphase hpart.status
  | vera => exact hchecker hpart
  | cppcheck => exact hchecker hpart
  | clangFormat => exact hchecker hpart
  | pep8 => exact hchecker hpart
  | configuration => exact hphase hpart.status
  | compilation => exact hphase hpart.compilation
  | installation => exact hphase hpart.status
  | testing => exact hphase (hpart.tests htests)

/-- VERA++ fails if it breaks down after a message. -/
theorem status_of_unfinished_vera :
    ∃ log record, BuildRecord.ofLog log = .ok record ∧ Part.vera.phase.Unfinished log log ∧
      Part.vera.status record = .failed := by
  let log : List Text :=
    ["MSGBLD0130: Running VERA++ for a.cpp", "MSGBLD0135: [VERA++] a.cpp:1: trailing whitespace"]
  have hrecord : BuildRecord.ofLog log = .ok (.assemble log {}) :=
    BuildRecord.ofLog_eq_ok_iff.mpr ⟨{}, by decide, rfl⟩
  have hunfinished : Part.vera.phase.Unfinished log log :=
    ⟨[], ⟨rfl, by simp, log.head (by decide), rfl, by decide⟩, by decide⟩
  refine ⟨log, _, hrecord, hunfinished, ?_⟩
  refine (status_of_unfinished hrecord .vera hunfinished).2.mpr ?_
  rintro checker ⟨⟩
  exact ⟨log.getLast (by decide), by decide, by decide, by decide⟩

/-- **A part that has not ended may pass**: VERA++, if it breaks down before its first message. -/
theorem not_forall_unfinished_failed :
    ¬ ∀ (log : List Text) (record : BuildRecord) (part : Part) (lines : List Text),
      BuildRecord.ofLog log = .ok record → part.phase.Unfinished log lines →
        part.status record = .failed := by
  intro h
  let log : List Text := ["MSGBLD0130: Running VERA++ for a.cpp"]
  have hunfinished : Part.vera.phase.Unfinished log log :=
    ⟨[], ⟨rfl, by simp, log.head (by decide), rfl, by decide⟩, by decide⟩
  have hrecord : BuildRecord.ofLog log = .ok (.assemble log {}) :=
    BuildRecord.ofLog_eq_ok_iff.mpr ⟨{}, by decide, rfl⟩
  exact absurd (h log _ .vera log hrecord hunfinished) (by decide)

end BuildSummary
