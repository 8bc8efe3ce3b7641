import BuildSummary.Changes
import BuildSummary.Proofs.Diagnostics
import BuildSummary.Proofs.Runs
import BuildSummary.Proofs.SummaryLines

/-!
# The readers of a phase agree

Several readers look for the same two markers: for the status alone, for the changed files, for
diagnostics, for the tests, and for the runs of a checker. Each goes through the log on its own and
stops in its own way; what each has read by then is known by the window of the phase, or for a
checker by its runs. So they agree on whether the phase began and on whether it was completed, even
if a closing comes too early, markers are repeated, or both stand on one line.

## Main definitions

* `CarriesAt`: the line at a position of a log carries a marker
* `Phase.CompletesAt`: positions at which a phase is opened and then closed
* `Phase.ReadersAgree`: the readers of a phase tell the same of it

## Main results

* `Phase.status_eq_passed_iff_completesAt`: the status by the positions of the markers
* `Checker.runs_eq_nil_iff`: a checker has runs if and only if a line opens one
* `Phase.readersAgree`: the readers of a phase tell the same of every log
-/

namespace BuildSummary

variable {phase : Phase} {log : List Text} {i j : Nat}

/-! ## Positions of markers -/

/-- The line at the position carries what is looked for. -/
def CarriesAt (carries : Text → Bool) (log : List Text) (i : Nat) : Prop :=
  ∃ line, log[i]? = some line ∧ carries line = true

namespace Phase

/-- The phase is opened at a position and closed at this one or a later one. -/
def CompletesAt (phase : Phase) (log : List Text) (i j : Nat) : Prop :=
  i ≤ j ∧ CarriesAt phase.opens log i ∧ CarriesAt phase.closes log j

/-- **A phase passed** if and only if some position opens it and that one or a later one closes
it. -/
theorem status_eq_passed_iff_completesAt :
    phase.status log = .passed ↔ ∃ i j, phase.CompletesAt log i j := by
  rw [status_eq_passed_iff]
  constructor
  · rintro ⟨before, opening, after, rfl, hopens, hany⟩
    obtain ⟨closing, hclosing, hcloses⟩ := List.any_eq_true.mp hany
    obtain ⟨k, hk⟩ := List.mem_iff_getElem?.mp hclosing
    refine ⟨before.length, before.length + k, Nat.le_add_right _ _, ⟨opening, ?_, hopens⟩,
      ⟨closing, ?_, hcloses⟩⟩
    · simp
    · rw [List.getElem?_append_right (Nat.le_add_right _ _), Nat.add_sub_cancel_left]
      exact hk
  · rintro ⟨i, j, hle, ⟨opening, hopening, hopens⟩, closing, hclosing, hcloses⟩
    obtain ⟨hlt, rfl⟩ := List.getElem?_eq_some_iff.mp hopening
    have hdrop : log.drop i = log[i] :: log.drop (i + 1) := List.drop_eq_getElem_cons hlt
    refine ⟨log.take i, log[i], log.drop (i + 1), ?_, hopens, ?_⟩
    · rw [← hdrop, List.take_append_drop]
    · -- the closing stands in what is left from the opening on
      rw [← hdrop, List.any_eq_true]
      refine ⟨closing, List.mem_iff_getElem?.mpr ⟨j - i, ?_⟩, hcloses⟩
      rw [List.getElem?_drop, Nat.add_sub_cancel' hle]
      exact hclosing

theorem status_eq_failed_iff :
    phase.status log = .failed ↔ (∃ line ∈ log, phase.opens line = true) ∧
      ¬ ∃ i j, phase.CompletesAt log i j := by
  have hbegan : (∃ line ∈ log, phase.opens line = true) ↔ phase.status log ≠ .skipped := by
    rw [ne_eq, status_eq_skipped_iff]
    simp
  rw [hbegan, ← status_eq_passed_iff_completesAt]
  cases phase.status log <;> decide

end Phase

/-! ## What the readers tell -/

namespace Compilation

theorem status_ofLog_eq_skipped_iff :
    (ofLog phase log).status = .skipped ↔ phase.status log = .skipped := by
  rcases phase.never_or_takes log with hnever | ⟨lines, hlines⟩
  · rw [(isCountOf_ofLog phase log).skipped hnever]
    exact iff_of_true rfl (Phase.status_eq_skipped_iff.mpr hnever)
  · exact iff_of_false (counts_ofLog hlines).begun hlines.status_ne_skipped

/-- A compilation passed if its phase did and no error was counted. -/
theorem status_ofLog_eq_passed_iff_errorCount :
    (ofLog phase log).status = .passed ↔
      phase.status log = .passed ∧ (ofLog phase log).errorCount = some 0 := by
  rcases phase.never_or_takes log with hnever | ⟨lines, hlines⟩
  · rw [(isCountOf_ofLog phase log).skipped hnever, Phase.status_eq_skipped_iff.mpr hnever]
    exact iff_of_false nofun nofun
  · have hcounts := counts_ofLog hlines
    have herrors : (ofLog phase log).errorCount = some (Severity.error.countOn lines) :=
      hcounts.count_eq .error
    rw [hcounts.passed_iff, herrors, hlines.status_eq_passed_iff, Option.some.injEq,
      Severity.countOn, List.countP_eq_zero]
    simp only [Bool.not_eq_true]

end Compilation

namespace Checker

variable {checker : Checker}

/-- **A checker has runs** if and only if a line opens one. -/
theorem runs_eq_nil_iff : checker.runs log = [] ↔ ∀ line ∈ log, checker.run.opens line = false := by
  induction log with
  | nil => simp [runs]
  | cons line rest ih =>
    rw [List.forall_mem_cons]
    cases hopens : checker.run.opens line with
    | true =>
      rw [runs, if_pos hopens]
      simp
    | false => rw [runs_cons_of_not_opens hopens, ih, and_iff_right rfl]

end Checker

/-! ## All readers -/

/-- The readers of a phase tell the same of a log: when the phase began, and when it was
completed. -/
structure Phase.ReadersAgree (phase : Phase) (log : List Text) : Prop where
  skipped_iff : phase.status log = .skipped ↔ ∀ line ∈ log, phase.opens line = false
  failed_iff : phase.status log = .failed ↔
    (∃ line ∈ log, phase.opens line = true) ∧ ¬ ∃ i j, phase.CompletesAt log i j
  passed_iff : phase.status log = .passed ↔ ∃ i j, phase.CompletesAt log i j
  compilation_skipped_iff :
    (Compilation.ofLog phase log).status = .skipped ↔ phase.status log = .skipped
  compilation_passed_iff : (Compilation.ofLog phase log).status = .passed ↔
    phase.status log = .passed ∧ (Compilation.ofLog phase log).errorCount = some 0
  tests_skipped_iff : ∀ run, TestRun.ofLog phase log = .ok run →
    (run.status = .skipped ↔ phase.status log = .skipped)
  tests_passed_iff : ∀ run, TestRun.ofLog phase log = .ok run →
    (run.status = .passed ↔ phase.status log = .passed ∧ run.failed = some 0)
  findings_eq_none_iff : ∀ checker : Checker, checker.run.opening = phase.opening →
    (checker.findings? log = none ↔ phase.status log = .skipped)
  changedFiles_eq_nil : ∀ item, phase.status log ≠ .passed → phase.changedFiles item log = []

/-- **The readers of a phase agree** on every log. -/
theorem Phase.readersAgree (phase : Phase) (log : List Text) : phase.ReadersAgree log where
  skipped_iff := status_eq_skipped_iff
  failed_iff := status_eq_failed_iff
  passed_iff := status_eq_passed_iff_completesAt
  compilation_skipped_iff := Compilation.status_ofLog_eq_skipped_iff
  compilation_passed_iff := Compilation.status_ofLog_eq_passed_iff_errorCount
  tests_skipped_iff run hrun := by
    rw [status_eq_skipped_iff, (TestRun.isToldBy_of_ofLog_eq_ok hrun).skipped_iff]
  tests_passed_iff run hrun := by
    rw [status_eq_passed_iff_completes, (TestRun.isToldBy_of_ofLog_eq_ok hrun).passed_iff]
  findings_eq_none_iff checker hopening := by
    rw [Checker.findings?_eq_none_iff, Checker.runs_eq_nil_iff, status_eq_skipped_iff]
    unfold opens
    rw [hopening]
  changedFiles_eq_nil item hstatus := if_neg hstatus

end BuildSummary
