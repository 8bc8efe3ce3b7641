import Mathlib.Data.List.TakeWhile
import BuildSummary.Phase

/-!
# Where a phase stands in a log

A log is cut before the first line that opens a phase. What comes before that line does not matter.
What follows either holds a line that closes the phase, and the phase is completed at the first of
them, or the phase takes the rest of the log.

## Main definitions

* `Phase.window?`: the lines of a log from the opening to the closing
* `Phase.Begins`: a log cut before the first opening
* `Phase.Completes`: the lines of a phase that is closed
* `Phase.Unfinished`: the lines of a phase that is not closed

## Main results

* `Phase.never_or_completes_or_unfinished`: the three ways in which a phase may go
* `Phase.completes_iff`, `Phase.Completes.unique`: a completed phase is one whose window is closed,
  and it has one set of lines
* `Phase.status_eq`: the status is that of the window
* `Phase.status_eq_passed_iff_completes`, `Phase.Unfinished.status`: what the status says of them
-/

namespace BuildSummary

/-- The stretch of a log that a phase takes. -/
structure Window where
  /-- How many lines stand before it. -/
  offset : Nat
  /-- Its lines, the opening and the closing included. -/
  lines : List Text
  /-- Whether it ends at a closing, and not with the log. -/
  isClosed : Bool
  deriving DecidableEq

namespace Phase

/-- The lines from the first opening to the first closing at or after it, or to the end of the log;
nothing if the phase never opens. The same line may open and close a phase. -/
def window? (phase : Phase) (log : List Text) : Option Window :=
  match log.dropWhile (!phase.opens ·) with
  | [] => none
  | inside => some {
      offset := (log.takeWhile (!phase.opens ·)).length
      lines := inside.takeWhile (!phase.closes ·) ++ (inside.dropWhile (!phase.closes ·)).take 1
      isClosed := inside.any phase.closes }

variable {phase : Phase} {log before inside after lines rest : List Text} {last : Text}

/-- The log is `before` and then `rest`, which begins with the first line that opens the phase. -/
structure Begins (phase : Phase) (log before rest : List Text) : Prop where
  /-- The two parts make up the log. -/
  log_eq : log = before ++ rest
  /-- No line opens the phase earlier. -/
  not_opens : ∀ line ∈ before, phase.opens line = false
  /-- The second part begins with an opening. -/
  opens : ∃ first ∈ rest.head?, phase.opens first = true

/-- `lines` are those from the first opening of the phase to the first closing at or after it. -/
def Completes (phase : Phase) (log lines : List Text) : Prop :=
  ∃ before inside last after,
    phase.Begins log before (inside ++ last :: after) ∧ lines = inside ++ [last] ∧
      (∀ line ∈ inside, phase.closes line = false) ∧ phase.closes last = true

/-- `lines` are those from the first opening of the phase on, and none of them closes it. -/
def Unfinished (phase : Phase) (log lines : List Text) : Prop :=
  ∃ before, phase.Begins log before lines ∧ ∀ line ∈ lines, phase.closes line = false

/-! ## The window of a log that is cut at the opening -/

/-- A phase has no window if and only if it is never opened. -/
theorem window?_eq_none_iff : phase.window? log = none ↔
    ∀ line ∈ log, phase.opens line = false := by
  unfold window?
  induction log with
  | nil => simp
  | cons first rest ih =>
    rw [List.dropWhile_cons]
    cases h : phase.opens first with
    | true => simp [h]
    | false =>
      rw [if_pos (by simp), List.forall_mem_cons, and_iff_right h, ← ih]
      cases rest.dropWhile (!phase.opens ·) <;> simp

theorem Begins.dropWhile_eq (h : phase.Begins log before rest) :
    log.dropWhile (!phase.opens ·) = rest := by
  obtain ⟨rfl, hbefore, first, hfirst, hopen⟩ := h
  rw [List.dropWhile_append_of_pos (by simpa using hbefore)]
  obtain ⟨tail, rfl⟩ := List.head?_eq_some_iff.mp hfirst
  rw [List.dropWhile_cons_of_neg (by simp [hopen])]

theorem Begins.takeWhile_eq (h : phase.Begins log before rest) :
    log.takeWhile (!phase.opens ·) = before := by
  obtain ⟨rfl, hbefore, first, hfirst, hopen⟩ := h
  rw [List.takeWhile_append_of_pos (by simpa using hbefore)]
  obtain ⟨tail, rfl⟩ := List.head?_eq_some_iff.mp hfirst
  rw [List.takeWhile_cons_of_neg (by simp [hopen]), List.append_nil]

theorem Begins.window? (h : phase.Begins log before rest) :
    phase.window? log = some {
      offset := before.length
      lines := rest.takeWhile (!phase.closes ·) ++ (rest.dropWhile (!phase.closes ·)).take 1
      isClosed := rest.any phase.closes } := by
  unfold Phase.window?
  rw [h.dropWhile_eq, h.takeWhile_eq]
  obtain ⟨first, hfirst, -⟩ := h.opens
  obtain ⟨tail, rfl⟩ := List.head?_eq_some_iff.mp hfirst
  rfl

/-- A log in which some line opens the phase can be cut before the first of them. -/
theorem exists_begins (h : ∃ line ∈ log, phase.opens line = true) :
    ∃ before rest, phase.Begins log before rest := by
  obtain ⟨first, hfirst⟩ := Option.isSome_iff_exists.mp (List.find?_isSome.mpr h)
  obtain ⟨hopen, before, rest, rfl, hbefore⟩ := List.find?_eq_some_iff_append.mp hfirst
  exact ⟨before, first :: rest, rfl, by simpa using hbefore, first, rfl, hopen⟩

/-- A log with a window can be cut at its opening. -/
theorem exists_begins_of_window?_eq_some {window : Window} (h : phase.window? log = some window) :
    ∃ before rest, phase.Begins log before rest := by
  refine exists_begins ?_
  by_contra hnever
  have hnone : phase.window? log = none := window?_eq_none_iff.mpr (by simpa using hnever)
  cases hnone.symm.trans h

/-- The lines of a window are lines of the log. -/
theorem mem_of_mem_window? {window : Window} (h : phase.window? log = some window) {line : Text}
    (hline : line ∈ window.lines) : line ∈ log := by
  obtain ⟨before, rest, hbegins⟩ := exists_begins_of_window?_eq_some h
  obtain rfl := Option.some.inj (hbegins.window?.symm.trans h)
  rw [hbegins.log_eq, List.mem_append]
  rcases List.mem_append.mp hline with hinside | hlast
  · exact .inr ((List.takeWhile_subset _) hinside)
  · exact .inr ((List.dropWhile_subset _) (List.mem_of_mem_take hlast))

/-! ## The three ways in which a phase may go -/

/-- **The three ways of a phase**: it is never opened, or completed, or takes the rest of the
log. -/
theorem never_or_completes_or_unfinished (phase : Phase) (log : List Text) :
    (∀ line ∈ log, phase.opens line = false) ∨ (∃ lines, phase.Completes log lines) ∨
      ∃ lines, phase.Unfinished log lines := by
  by_cases hopen : ∃ line ∈ log, phase.opens line = true
  -- cut at the first opening, then look for the first closing in what follows
  · obtain ⟨before, rest, hbegins⟩ := exists_begins hopen
    right
    cases hclose : rest.find? phase.closes with
    | some last =>
      obtain ⟨hlast, inside, after, rfl, hinside⟩ := List.find?_eq_some_iff_append.mp hclose
      exact .inl ⟨_, before, inside, last, after, hbegins, rfl, by simpa using hinside, hlast⟩
    | none => exact .inr ⟨rest, before, hbegins, by simpa using hclose⟩
  · exact .inl (by simpa using hopen)

/-- A phase that is completed has its lines as its window. -/
theorem Completes.window? (h : phase.Completes log lines) :
    ∃ offset, phase.window? log = some ⟨offset, lines, true⟩ := by
  obtain ⟨before, inside, last, after, hbegins, rfl, hinside, hlast⟩ := h
  refine ⟨before.length, ?_⟩
  have hnot : ∀ line ∈ inside, (!phase.closes line) = true := by simpa using hinside
  rw [hbegins.window?, List.takeWhile_append_of_pos hnot, List.dropWhile_append_of_pos hnot]
  simp [hlast]

/-- A phase that is not closed takes the rest of the log. -/
theorem Unfinished.window? (h : phase.Unfinished log lines) :
    ∃ offset, phase.window? log = some ⟨offset, lines, false⟩ := by
  obtain ⟨before, hbegins, hlines⟩ := h
  refine ⟨before.length, ?_⟩
  have hnot : ∀ line ∈ lines, (!phase.closes line) = true := by simpa using hlines
  have htake := List.takeWhile_eq_self_iff.mpr hnot
  have hdrop := List.dropWhile_eq_nil_iff.mpr hnot
  have hany : lines.any phase.closes = false := by simpa using hlines
  rw [hbegins.window?, htake, hdrop, hany]
  simp

/-- **A completed phase** is one whose window is closed, and its lines are those of the window. -/
theorem completes_iff :
    phase.Completes log lines ↔ ∃ offset, phase.window? log = some ⟨offset, lines, true⟩ := by
  refine ⟨Completes.window?, fun ⟨offset, hwindow⟩ => ?_⟩
  -- of the three ways, only one has a closed window, and a window has only one form
  rcases never_or_completes_or_unfinished phase log with hnever | ⟨lines', h⟩ | ⟨lines', h⟩
  · rw [window?_eq_none_iff.mpr hnever] at hwindow
    cases hwindow
  · obtain ⟨offset', hwindow'⟩ := h.window?
    cases hwindow.symm.trans hwindow'
    exact h
  · obtain ⟨offset', hwindow'⟩ := h.window?
    cases hwindow.symm.trans hwindow'

/-- The lines of a completed phase are determined by the log. -/
theorem Completes.unique {lines' : List Text} (h : phase.Completes log lines)
    (h' : phase.Completes log lines') : lines = lines' := by
  obtain ⟨offset, hwindow⟩ := h.window?
  obtain ⟨offset', hwindow'⟩ := h'.window?
  cases hwindow.symm.trans hwindow'
  rfl

/-! ## What the status says -/

/-- The reading of a log that is cut at the opening. -/
theorem Begins.status (h : phase.Begins log before rest) :
    phase.status log = .ofSuccess (rest.any phase.closes) := by
  obtain ⟨rfl, hbefore, first, hfirst, hopen⟩ := h
  obtain ⟨tail, rfl⟩ := List.head?_eq_some_iff.mp hfirst
  induction before with
  | nil => exact status_cons_of_opens hopen
  | cons line before ih =>
    rw [List.forall_mem_cons] at hbefore
    rw [List.cons_append, status_cons_of_not_opens hbefore.1, ih hbefore.2]

/-- **The status by the window**: the phase has one if it was opened, and it is closed if the phase
passed. -/
theorem status_eq (phase : Phase) (log : List Text) :
    phase.status log =
      match phase.window? log with
      | none => .skipped
      | some window => .ofSuccess window.isClosed := by
  by_cases hopen : ∃ line ∈ log, phase.opens line = true
  · obtain ⟨before, rest, hbegins⟩ := exists_begins hopen
    rw [hbegins.status, hbegins.window?]
  · have hnever : ∀ line ∈ log, phase.opens line = false := by simpa using hopen
    rw [status_eq_skipped_iff.mpr hnever, window?_eq_none_iff.mpr hnever]

theorem Completes.status (h : phase.Completes log lines) : phase.status log = .passed := by
  obtain ⟨offset, hwindow⟩ := h.window?
  rw [status_eq, hwindow]
  rfl

/-- **A phase that was opened and never closed failed.** -/
theorem Unfinished.status (h : phase.Unfinished log lines) : phase.status log = .failed := by
  obtain ⟨offset, hwindow⟩ := h.window?
  rw [status_eq, hwindow]
  rfl

theorem Unfinished.not_completes {lines' : List Text} (h : phase.Unfinished log lines) :
    ¬ phase.Completes log lines' := by
  intro hcompletes
  cases hcompletes.status.symm.trans h.status

theorem status_eq_passed_iff_completes :
    phase.status log = .passed ↔ ∃ lines, phase.Completes log lines := by
  refine ⟨fun hpassed => ?_, fun ⟨lines, h⟩ => h.status⟩
  rcases never_or_completes_or_unfinished phase log with hnever | h | ⟨lines, h⟩
  · rw [status_eq_skipped_iff.mpr hnever] at hpassed
    cases hpassed
  · exact h
  · rw [h.status] at hpassed
    cases hpassed

theorem isPassedOrSkipped_status_iff :
    (phase.status log).isPassedOrSkipped = true ↔
      (∀ line ∈ log, phase.opens line = false) ∨ ∃ lines, phase.Completes log lines := by
  rw [← status_eq_skipped_iff, ← status_eq_passed_iff_completes]
  cases phase.status log <;> decide

end Phase

end BuildSummary
