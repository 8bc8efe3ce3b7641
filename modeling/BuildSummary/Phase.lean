import BuildSummary.Text.Basic

/-!
# Phases of a build

The build script brackets each of its phases in the log: it prints a line that carries an opening
marker before the phase and a line that carries a closing marker after it. A log is read line by
line: a closing that comes before the first opening is passed over, and the first closing at or
after it ends the reading.

## Main definitions

* `Status`: what became of a phase
* `Phase`: a pair of markers
* `Phase.step`: what one line says of a phase
* `Phase.status`: what became of the phase, according to its markers

## Main results

* `Phase.status_eq_skipped_iff`: a phase was skipped if no line opens it
* `Phase.status_eq_passed_iff`: a phase passed if a line closes it at or after one that opens it
-/

namespace BuildSummary

/-- What became of a part of the build. -/
inductive Status where
  /-- It never began. -/
  | skipped
  /-- It began and did not end well. -/
  | failed
  /-- It ended well. -/
  | passed
  deriving DecidableEq, Inhabited

namespace Status

/-- The status of a part that began. -/
def ofSuccess (success : Bool) : Status :=
  if success then passed else failed

theorem ofSuccess_ne_skipped (success : Bool) : ofSuccess success ≠ skipped := by
  cases success <;> decide

theorem ofSuccess_eq_passed_iff {success : Bool} :
    ofSuccess success = passed ↔ success = true := by
  cases success <;> decide

theorem eq_failed {status : Status} (hskipped : status ≠ skipped) (hpassed : status ≠ passed) :
    status = failed := by
  cases status with
  | skipped => exact absurd rfl hskipped
  | failed => rfl
  | passed => exact absurd rfl hpassed

/-- Whether a part that is allowed to be left out does not stand in the way. -/
def isPassedOrSkipped (status : Status) : Bool :=
  status ≠ failed

/-- How reports write the status. -/
def text : Status → Text
  | skipped => "Skipped"
  | failed => "Failed"
  | passed => "Passed successfully"

end Status

/-- A phase of the build, known by its markers. -/
structure Phase where
  /-- Carried by the line before the phase. -/
  opening : Text
  /-- Carried by the line after the phase. -/
  closing : Text
  deriving DecidableEq

namespace Phase

/-- Whether the line carries the opening marker. -/
def opens (phase : Phase) (line : Text) : Bool :=
  phase.opening.occursIn line

/-- Whether the line carries the closing marker. -/
def closes (phase : Phase) (line : Text) : Bool :=
  phase.closing.occursIn line

/-- What is known of the phase after one more line. The same line may open and close it. -/
def step (phase : Phase) (status : Status) (line : Text) : Status :=
  let opened := if status = .skipped ∧ phase.opens line then .failed else status
  if opened = .failed ∧ phase.closes line then .passed else opened

/-- What is known of the phase after some lines. Nothing is read after the one that completes it. -/
def statusFrom (phase : Phase) (status : Status) : List Text → Status
  | [] => status
  | line :: rest =>
    if phase.step status line = .passed then .passed
    else phase.statusFrom (phase.step status line) rest

/-- A phase that never opened was skipped, one that never closed failed. -/
def status (phase : Phase) (log : List Text) : Status :=
  phase.statusFrom .skipped log

/-! ## Reading a log -/

theorem step_failed (phase : Phase) (line : Text) :
    phase.step .failed line = .ofSuccess (phase.closes line) := by
  cases h : phase.closes line <;> simp [step, h, Status.ofSuccess]

/-- The line that opens a phase may close it. -/
theorem step_skipped_of_opens {phase : Phase} {line : Text} (h : phase.opens line = true) :
    phase.step .skipped line = .ofSuccess (phase.closes line) := by
  cases hcloses : phase.closes line <;> simp [step, h, hcloses, Status.ofSuccess]

theorem step_skipped_of_not_opens {phase : Phase} {line : Text} (h : phase.opens line = false) :
    phase.step .skipped line = .skipped := by
  simp [step, h]

/-- **A phase that was opened** passes if a line closes it, and fails otherwise. -/
theorem statusFrom_failed (phase : Phase) (log : List Text) :
    phase.statusFrom .failed log = .ofSuccess (log.any phase.closes) := by
  induction log with
  | nil => rfl
  | cons line rest ih =>
    rw [statusFrom, step_failed, List.any_cons]
    cases phase.closes line with
    | true => rfl
    | false => exact ih

/-! ## What the status says of the log -/

/-- What comes before the first line that opens a phase does not matter. -/
theorem status_cons_of_not_opens {phase : Phase} {line : Text} {log : List Text}
    (h : phase.opens line = false) : phase.status (line :: log) = phase.status log := by
  rw [status, statusFrom, step_skipped_of_not_opens h]
  rfl

theorem status_cons_of_opens {phase : Phase} {line : Text} {log : List Text}
    (h : phase.opens line = true) :
    phase.status (line :: log) = .ofSuccess ((line :: log).any phase.closes) := by
  rw [status, statusFrom, step_skipped_of_opens h, List.any_cons]
  cases phase.closes line with
  | true => rfl
  | false => exact statusFrom_failed phase log

/-- A phase was skipped if and only if no line opens it. -/
theorem status_eq_skipped_iff {phase : Phase} {log : List Text} :
    phase.status log = .skipped ↔ ∀ line ∈ log, phase.opens line = false := by
  induction log with
  | nil => exact iff_of_true rfl (List.forall_mem_nil _)
  | cons line rest ih =>
    rw [List.forall_mem_cons]
    cases h : phase.opens line with
    | true =>
      rw [status_cons_of_opens h]
      exact iff_of_false (Status.ofSuccess_ne_skipped _) (by simp)
    | false => rw [status_cons_of_not_opens h, ih, and_iff_right rfl]

/-- A phase passed if and only if a line closes it at or after a line that opens it. -/
theorem status_eq_passed_iff {phase : Phase} {log : List Text} :
    phase.status log = .passed ↔
      ∃ before line after, log = before ++ line :: after ∧ phase.opens line = true ∧
        (line :: after).any phase.closes = true := by
  induction log with
  | nil => simp [status, statusFrom]
  | cons first rest ih =>
    cases h : phase.opens first with
    | true =>
      rw [status_cons_of_opens h]
      -- the first line opens the phase, so any split begins at it or after it
      constructor
      · intro hany
        refine ⟨[], first, rest, rfl, h, ?_⟩
        cases hc : (first :: rest).any phase.closes with
        | true => rfl
        | false => simp [hc, Status.ofSuccess] at hany
      · rintro ⟨before, line, after, heq, -, hany⟩
        have : (first :: rest).any phase.closes = true := by
          rw [heq, List.any_append, hany, Bool.or_true]
        simp [this, Status.ofSuccess]
    | false =>
      rw [status_cons_of_not_opens h, ih]
      constructor
      · rintro ⟨before, line, after, rfl, hopen, hany⟩
        exact ⟨first :: before, line, after, rfl, hopen, hany⟩
      · rintro ⟨before, line, after, heq, hopen, hany⟩
        cases before with
        | nil =>
          rw [List.nil_append, List.cons.injEq] at heq
          rw [heq.1, hopen] at h
          simp at h
        | cons b before =>
          rw [List.cons_append, List.cons.injEq] at heq
          exact ⟨before, line, after, heq.2, hopen, hany⟩

end Phase

end BuildSummary
