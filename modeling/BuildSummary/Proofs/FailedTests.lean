import Mathlib.Data.List.Nodup
import BuildSummary.Proofs.SummaryLines

/-!
# How many tests failed

A summary may tell more than once how many tests failed. Every line that tells it is read, but only
the last one counts: the tests pass if it tells that none failed, whatever those before it tell. So
tests may pass although some of them failed.

## Main definitions

* `TestRun.Reports`, `TestRun.LastReports`: a line of the summary, or the last such line, tells how
  many tests failed
* `TestRun.ReportsNone`: the summary tells that no test failed, and nothing else

## Main results

* `TestRun.InSummary.unique`, `TestCount.Tells.unique`: a line is known by its number, and tells one
  count
* `TestRun.passed_iff_lastReports`: which tests pass, and when no test of these failed
* `TestRun.not_forall_reportsNone`: tests pass although a line tells that some failed
-/

namespace BuildSummary

theorem TestCount.Tells.unique {count : TestCount} {line : Text} {m n : Nat}
    (h : Tells line m count) (h' : Tells line n count) : m = n := by
  rw [← read?_eq_some_iff] at h h'
  exact Option.some.inj (h.symm.trans h')

namespace TestRun

variable {phase : Phase} {log : List Text} {line line' : Text} {number last : Nat} {run : TestRun}

theorem InSummary.unique (h : InSummary phase log number line)
    (h' : InSummary phase log number line') : line = line' := by
  obtain ⟨window, hwindow, hmem⟩ := exists_mem_summaryLines_iff.mpr h
  rw [inSummary_iff hwindow] at h'
  -- the numbers ascend, so that no two lines have the same one
  have hnodup : ((summaryLines window).map (·.2)).Nodup :=
    List.pairwise_map.mpr ((pairwise_summaryLines window).imp Nat.ne_of_lt)
  exact congrArg Prod.fst (List.inj_on_of_nodup_map hnodup hmem h' rfl)

/-- The line of the summary with the number tells how many tests failed. -/
def Reports (phase : Phase) (log : List Text) (number failures : Nat) : Prop :=
  ∃ line, InSummary phase log number line ∧ TestCount.failed.label.occursIn line = true ∧
    TestCount.Tells line failures .failed

/-- The last line of the summary that tells how many tests failed. -/
structure LastReports (phase : Phase) (log : List Text) (last failures : Nat) : Prop where
  reports : Reports phase log last failures
  le_last : ∀ number n, Reports phase log number n → number ≤ last

/-- Every line of the summary with the label tells that no test failed, and there is such a line. -/
structure ReportsNone (phase : Phase) (log : List Text) : Prop where
  tells_zero : ∀ number line, InSummary phase log number line →
    TestCount.failed.label.occursIn line = true → TestCount.Tells line 0 .failed
  exists_label : ∃ number line, InSummary phase log number line ∧
    TestCount.failed.label.occursIn line = true

/-- In a log that can be read, a line of the summary with the label tells a count. -/
theorem exists_reports (h : ofLog phase log = .ok run) (hline : InSummary phase log number line)
    (hlabel : TestCount.failed.label.occursIn line = true) :
    ∃ n, TestCount.Tells line n .failed ∧ Reports phase log number n := by
  by_contra hnone
  refine not_missingOn_of_ofLog_eq_ok h hline .failed ⟨hlabel, fun n htells => hnone ?_⟩
  exact ⟨n, htells, line, hline, hlabel, htells⟩

/-- The number of failed tests that is kept is the one on the last line that tells it. -/
theorem failed_eq_some_iff (h : ofLog phase log = .ok run) {n : Nat} :
    run.failed = some n ↔ ∃ last, LastReports phase log last n := by
  refine ((isToldBy_of_ofLog_eq_ok h).get_eq_some_iff .failed n).trans ?_
  constructor
  · rintro ⟨last, line, hline, hlabel, htells, hlater⟩
    refine ⟨last, ⟨line, hline, hlabel, htells⟩, ?_⟩
    rintro number m ⟨line', hline', hlabel', -⟩
    by_contra hlt
    rw [hlater number line' hline' (Nat.lt_of_not_le hlt)] at hlabel'
    cases hlabel'
  · rintro ⟨last, ⟨line, hline, hlabel, htells⟩, hlast⟩
    refine ⟨last, line, hline, hlabel, htells, fun later line' hline' hlt => ?_⟩
    rw [Bool.eq_false_iff]
    intro hlabel'
    obtain ⟨m, -, hreports⟩ := exists_reports h hline' hlabel'
    exact Nat.not_le_of_lt hlt (hlast later m hreports)

/-- **No test failed** according to all lines of the summary if the last one tells so and the lines
before it do not tell otherwise. -/
theorem LastReports.reportsNone_iff (hlast : LastReports phase log last 0)
    (h : ofLog phase log = .ok run) :
    ReportsNone phase log ↔ ∀ earlier n, earlier < last → Reports phase log earlier n → n = 0 := by
  obtain ⟨line, hline, hlabel, htells⟩ := hlast.reports
  constructor
  · rintro hnone earlier n - ⟨line', hline', hlabel', htells'⟩
    exact htells'.unique (hnone.tells_zero earlier line' hline' hlabel')
  · intro hearlier
    refine ⟨fun number line' hline' hlabel' => ?_, last, line, hline, hlabel⟩
    obtain ⟨n, htells', hreports⟩ := exists_reports h hline' hlabel'
    -- a line that tells a count stands before the last one, or is the last one itself
    rcases Nat.lt_or_eq_of_le (hlast.le_last number n hreports) with hlt | rfl
    · rw [hearlier number n hlt hreports] at htells'
      exact htells'
    · rw [hline'.unique hline]
      exact htells

/-- **Which tests pass.** Their phase was completed, and the last line of the summary that tells how
many tests failed tells that none did. All lines tell so exactly if those before it do. -/
theorem passed_iff_lastReports (h : ofLog phase log = .ok run) :
    (run.status = .passed ↔
        (∃ lines, phase.Completes log lines) ∧ ∃ last, LastReports phase log last 0) ∧
      ∀ last, LastReports phase log last 0 →
        (ReportsNone phase log ↔
          ∀ earlier n, earlier < last → Reports phase log earlier n → n = 0) := by
  refine ⟨?_, fun last hlast => hlast.reportsNone_iff h⟩
  rw [(isToldBy_of_ofLog_eq_ok h).passed_iff, failed_eq_some_iff h]

/-- A log in which three tests failed at first, and none at last. -/
theorem passed_iff_lastReports_twice :
    ∃ log run, ofLog .testing log = .ok run ∧ run.status = .passed ∧
      ∃ last, LastReports .testing log last 0 := by
  let log : List Text := ["MSGBLD0290", "NEST Testsuite Summary", "Failed 3 of 7", "Failed 0 of 2",
    "MSGBLD0300"]
  have hlog : ofLog .testing log = .ok ⟨.passed, none, some 0⟩ := by decide
  exact ⟨log, _, hlog, rfl, ((passed_iff_lastReports hlog).1.mp rfl).2⟩

/-- **Tests may pass although some failed**: a later line of the summary overrides the line that
tells so. -/
theorem not_forall_reportsNone :
    ¬ ∀ (phase : Phase) (log : List Text) (run : TestRun), ofLog phase log = .ok run →
      run.status = .passed → ReportsNone phase log := by
  intro h
  let opening : Text := "MSGBLD0290"
  let failing : Text := "Failed 3 of 7"
  let after : List Text := ["Failed 0 of 2", "MSGBLD0300"]
  let log : List Text := opening :: banner :: failing :: after
  have hlog : ofLog .testing log = .ok ⟨.passed, none, some 0⟩ := by decide
  have hbegins : Phase.testing.Begins log [] log := ⟨rfl, by simp, opening, rfl, by decide⟩
  have hline : InSummary .testing log 3 failing :=
    ⟨[], [opening, banner], after, hbegins, by decide, ⟨banner, by simp, by decide⟩, rfl⟩
  have hzero := (h .testing log _ hlog rfl).tells_zero 3 failing hline (by decide)
  have hthree : TestCount.Tells failing 3 .failed := TestCount.read?_eq_some_iff.mp (by decide)
  exact absurd (hzero.unique hthree) (by decide)

end TestRun

end BuildSummary
