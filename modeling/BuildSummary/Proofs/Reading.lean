import Mathlib.Data.List.Induction
import BuildSummary.Changes
import BuildSummary.Compilation
import BuildSummary.TestRun
import BuildSummary.Proofs.Window

/-!
# Reading a phase line by line

Each reader of a phase goes through the log on its own. It passes over the lines before the opening,
reads the lines from the opening on, each with what it knows so far, and stops after the closing.
So what a reader knows in the end depends on the lines of the window only, and on whether the window
is closed. A reader of tests waits for the banner in the same way as it waits for the opening.

## Main definitions

* `Phase.untilClosing`: the lines that are read once the phase is open
* `Compilation.diagnostics`, `Compilation.perFile`: the lines that a compilation counts
* `TestRun.summaryLines`: the lines in which counts are looked for

## Main results

* `Compilation.Tally.read_ofLines`, `TestRun.Progress.read_inSummary`: what one line adds
* `Compilation.scan_of_hasBegun`, `TestRun.scan_of_hasBegun`, `Phase.listedFrom_true`: what is known
  after the lines of an open phase
* `Compilation.ofLog_eq`, `TestRun.ofLog_eq`, `Phase.changedFiles_eq`: what a reader tells, by the
  lines of the log
-/

namespace BuildSummary

variable {phase : Phase} {log before rest : List Text}

/-- The lines up to the first that closes the phase, this one included. -/
def Phase.untilClosing (phase : Phase) (lines : List Text) : List Text :=
  lines.takeWhile (!phase.closes ·) ++ (lines.dropWhile (!phase.closes ·)).take 1

theorem Phase.untilClosing_cons (phase : Phase) (line : Text) (rest : List Text) :
    phase.untilClosing (line :: rest) =
      line :: if phase.closes line then [] else phase.untilClosing rest := by
  unfold untilClosing
  cases h : phase.closes line <;> simp [h]

/-- A log with a window is cut at its opening, and the window holds what is read from there on. -/
theorem Phase.exists_begins_window {window : Window} (h : phase.window? log = some window) :
    ∃ before rest, phase.Begins log before rest ∧
      window = ⟨before.length, phase.untilClosing rest, rest.any phase.closes⟩ := by
  obtain ⟨before, rest, hbegins⟩ := exists_begins_of_window?_eq_some h
  exact ⟨before, rest, hbegins, Option.some.inj (h.symm.trans hbegins.window?)⟩

/-! ## The compilation -/

namespace Compilation

/-- The diagnostics of a severity among the lines. -/
def diagnostics (severity : Severity) (lines : List Text) : List Text :=
  lines.filter severity.tag.occursIn

/-- How many of the diagnostics each file has; files without one are left out. -/
def perFile (diagnostics : List Text) : Index Nat :=
  .tally (diagnostics.map fileOf)

/-- Each diagnostic counts in one file. -/
theorem sum_perFile (diagnostics : List Text) :
    (perFile diagnostics).sum = diagnostics.length := by
  rw [perFile, Index.sum_tally, List.length_map]

/-- The diagnostics of a severity among the lines, counted. -/
def Tally.ofLines (severity : Severity) (lines : List Text) : Tally where
  count := (diagnostics severity lines).length
  perFile := Compilation.perFile (diagnostics severity lines)

/-- **One line more** is one diagnostic more, in its file, if it carries the tag. -/
theorem Tally.read_ofLines (severity : Severity) (lines : List Text) (line : Text) :
    (ofLines severity lines).read severity line = ofLines severity (lines ++ [line]) := by
  unfold read ofLines diagnostics
  rw [List.filter_append]
  cases htag : severity.tag.occursIn line with
  | true =>
    rw [if_pos rfl, List.filter_cons_of_pos htag, List.filter_nil]
    simp [Compilation.perFile, Index.tally]
  | false =>
    rw [if_neg Bool.false_ne_true, List.filter_cons_of_neg (by simp [htag]), List.filter_nil,
      List.append_nil]

theorem Tally.foldl_read (severity : Severity) (lines : List Text) :
    lines.foldl (Tally.read severity) {} = ofLines severity lines := by
  induction lines using List.reverseRecOn with
  | nil => rfl
  | append_singleton lines line ih =>
    rw [List.foldl_append, ih, List.foldl_cons, List.foldl_nil, read_ofLines]

/-- The two severities are counted side by side. -/
theorem Progress.foldl_read (progress : Progress) (lines : List Text) :
    lines.foldl Progress.read progress = { progress with
      errors := lines.foldl (Tally.read .error) progress.errors
      warnings := lines.foldl (Tally.read .warning) progress.warnings } := by
  induction lines generalizing progress with
  | nil => rfl
  | cons line rest ih => exact ih (progress.read line)

/-- The lines before the opening are passed over. -/
theorem scan_append_of_not_opens (h : ∀ line ∈ before, phase.opens line = false)
    (rest : List Text) : scan phase {} (before ++ rest) = scan phase {} rest := by
  induction before with
  | nil => rfl
  | cons line before ih =>
    rw [List.forall_mem_cons] at h
    rw [List.cons_append, scan, h.1, ih h.2]
    rfl

/-- **In an open phase** the lines are read up to the closing. -/
theorem scan_of_hasBegun {progress : Progress} (hbegun : progress.hasBegun = true)
    (hopen : progress.isCompleted = false) (lines : List Text) :
    scan phase progress lines = { (phase.untilClosing lines).foldl Progress.read progress with
      isCompleted := lines.any phase.closes } := by
  obtain ⟨hasBegun, isCompleted, errors, warnings⟩ := progress
  subst hbegun hopen
  -- the counts so far are generalized, since each line adds to those of the lines before it
  induction lines generalizing errors warnings with
  | nil => rfl
  | cons line rest ih =>
    rw [scan, Phase.untilClosing_cons, List.any_cons]
    cases phase.closes line with
    | true => rfl
    | false => exact ih (errors.read .error line) (warnings.read .warning line)

/-- The reading of a log that is cut at the opening. -/
theorem scan_of_begins (h : phase.Begins log before rest) :
    scan phase {} log = {
      hasBegun := true
      isCompleted := rest.any phase.closes
      errors := .ofLines .error (phase.untilClosing rest)
      warnings := .ofLines .warning (phase.untilClosing rest) } := by
  obtain ⟨rfl, hbefore, first, hfirst, hopen⟩ := h
  obtain ⟨tail, rfl⟩ := List.head?_eq_some_iff.mp hfirst
  -- the line that opens the phase is read as if the phase were open already
  have hfirst : scan phase {} (first :: tail) =
      scan phase { hasBegun := true } (first :: tail) := by
    rw [scan, scan, hopen]
    rfl
  rw [scan_append_of_not_opens hbefore, hfirst, scan_of_hasBegun rfl rfl, Progress.foldl_read,
    Tally.foldl_read, Tally.foldl_read]

/-- **A compilation by the window** of its phase: the diagnostics in it are counted. -/
theorem ofLog_eq (phase : Phase) (log : List Text) :
    ofLog phase log =
      match phase.window? log with
      | none => {}
      | some window =>
        { status := .ofSuccess (window.isClosed && (diagnostics .error window.lines).isEmpty)
          errorCount := some (diagnostics .error window.lines).length
          errors := some (perFile (diagnostics .error window.lines))
          warningCount := some (diagnostics .warning window.lines).length
          warnings := some (perFile (diagnostics .warning window.lines)) } := by
  cases hwindow : phase.window? log with
  | none =>
    have hnever := scan_append_of_not_opens (Phase.window?_eq_none_iff.mp hwindow) []
    rw [List.append_nil] at hnever
    rw [ofLog, hnever]
    rfl
  | some window =>
    obtain ⟨before, rest, hbegins, rfl⟩ := Phase.exists_begins_window hwindow
    have hempty : decide ((diagnostics .error (phase.untilClosing rest)).length = 0) =
        (diagnostics .error (phase.untilClosing rest)).isEmpty := by
      rw [Bool.eq_iff_iff, decide_eq_true_iff, List.length_eq_zero_iff, List.isEmpty_iff]
    simp only [ofLog, scan_of_begins hbegins, ← hempty]
    rfl

end Compilation

/-! ## The tests -/

namespace TestRun

/-- The lines of the summary with their numbers in the log, from 1: those from the banner on. -/
def summaryLines (window : Window) : List (Text × Nat) :=
  (window.lines.zipIdx (window.offset + 1)).dropWhile fun (line, _) => Text.trim line ≠ banner

variable {progress : Progress} {numbered : List (Text × Nat)} {number : Nat}

/-- **In the summary** each line is read for its counts. -/
theorem Progress.read_inSummary (h : progress.inSummary = true) (numbered : Text × Nat) :
    progress.read numbered =
      (readLine progress.run numbered).map fun run => { progress with run } := by
  unfold Progress.read
  rw [h, Bool.true_or, if_pos rfl]
  cases readLine progress.run numbered with
  | error e => rfl
  | ok run =>
    obtain ⟨hasBegun, inSummary, isCompleted, counts⟩ := progress
    subst h
    rfl

/-- The line with the banner is the first of the summary. -/
theorem Progress.read_of_banner {numbered : Text × Nat} (h : Text.trim numbered.1 = banner) :
    progress.read numbered = { progress with inSummary := true }.read numbered := by
  simp [Progress.read, h]

/-- Before the summary nothing is read. -/
theorem Progress.read_of_ne_banner {numbered : Text × Nat} (h : progress.inSummary = false)
    (hbanner : Text.trim numbered.1 ≠ banner) : progress.read numbered = .ok progress := by
  simp [Progress.read, h, hbanner, pure, Except.pure]

theorem Progress.foldlM_read_inSummary (h : progress.inSummary = true)
    (numbered : List (Text × Nat)) :
    numbered.foldlM Progress.read progress =
      (numbered.foldlM readLine progress.run).map fun run => { progress with run } := by
  induction numbered generalizing progress with
  | nil => rfl
  | cons first rest ih =>
    rw [List.foldlM_cons, List.foldlM_cons, Progress.read_inSummary h]
    cases readLine progress.run first with
    | error e => rfl
    | ok run => exact ih h

/-- **The lines of a phase** are read from the banner on. -/
theorem Progress.foldlM_read (h : progress.inSummary = false) (numbered : List (Text × Nat)) :
    ∃ inSummary, numbered.foldlM Progress.read progress =
      ((numbered.dropWhile fun (line, _) => Text.trim line ≠ banner).foldlM readLine
        progress.run).map fun run => { progress with inSummary, run } := by
  induction numbered with
  | nil => exact ⟨false, by rw [← h]; rfl⟩
  | cons first rest ih =>
    by_cases hbanner : Text.trim first.1 = banner
    · refine ⟨true, ?_⟩
      rw [List.dropWhile_cons_of_neg (by simpa using hbanner), List.foldlM_cons,
        Progress.read_of_banner hbanner, ← List.foldlM_cons, Progress.foldlM_read_inSummary rfl]
    · obtain ⟨inSummary, hrest⟩ := ih
      refine ⟨inSummary, ?_⟩
      rw [List.dropWhile_cons_of_pos (by simpa using hbanner), List.foldlM_cons,
        Progress.read_of_ne_banner h hbanner, ← hrest]
      rfl

/-- A line changes neither whether the phase has begun nor whether it was completed. -/
theorem Progress.eq_of_read {after : Progress} {numbered : Text × Nat}
    (h : progress.read numbered = .ok after) :
    after.hasBegun = progress.hasBegun ∧ after.isCompleted = progress.isCompleted := by
  simp only [Progress.read] at h
  split at h
  · obtain ⟨run, -, hafter⟩ := bind_eq_ok_iff.mp h
    cases hafter
    exact ⟨rfl, rfl⟩
  · cases h
    exact ⟨rfl, rfl⟩

/-- The lines before the opening are passed over, but numbered. -/
theorem scan_append_of_not_opens (h : ∀ line ∈ before, phase.opens line = false)
    (rest : List Text) (number : Nat) :
    scan phase {} number (before ++ rest) = scan phase {} (number + before.length) rest := by
  induction before generalizing number with
  | nil => rfl
  | cons line before ih =>
    rw [List.forall_mem_cons] at h
    rw [List.cons_append, scan, h.1, List.length_cons, Nat.add_comm before.length 1,
      ← Nat.add_assoc, ← ih h.2]
    rfl

/-- **In an open phase** the lines are read up to the closing. -/
theorem scan_of_hasBegun (hbegun : progress.hasBegun = true) (hopen : progress.isCompleted = false)
    (number : Nat) (lines : List Text) :
    scan phase progress number lines =
      (((phase.untilClosing lines).zipIdx number).foldlM Progress.read progress).map
        fun after => { after with isCompleted := lines.any phase.closes } := by
  induction lines generalizing progress number with
  | nil =>
    obtain ⟨hasBegun, inSummary, isCompleted, run⟩ := progress
    subst hopen
    rfl
  | cons line rest ih =>
    have hopened : { progress with hasBegun := true } = progress := by
      obtain ⟨hasBegun, inSummary, isCompleted, run⟩ := progress
      subst hbegun
      rfl
    rw [scan, hbegun, Bool.true_or, if_pos rfl, hopened, Phase.untilClosing_cons,
      List.zipIdx_cons, List.foldlM_cons, List.any_cons]
    -- a count that cannot be read ends the reading, and so does a closing
    cases hread : progress.read (line, number) with
    | error e => rfl
    | ok after =>
      obtain ⟨hbegun', hopen'⟩ := Progress.eq_of_read hread
      cases phase.closes line with
      | true => rfl
      | false => exact ih (hbegun'.trans hbegun) (hopen'.trans hopen) (number + 1)

/-- The reading of a log that is cut at the opening. -/
theorem scan_of_begins (h : phase.Begins log before rest) :
    ∃ inSummary, scan phase {} 1 log =
      ((summaryLines ⟨before.length, phase.untilClosing rest, rest.any phase.closes⟩).foldlM
        readLine {}).map fun run => ⟨true, inSummary, rest.any phase.closes, run⟩ := by
  obtain ⟨rfl, hbefore, first, hfirst, hopen⟩ := h
  obtain ⟨tail, rfl⟩ := List.head?_eq_some_iff.mp hfirst
  have hopened (number : Nat) : scan phase {} number (first :: tail) =
      scan phase { hasBegun := true } number (first :: tail) := by
    rw [scan, scan, hopen]
    rfl
  have hbanner : Progress.inSummary { hasBegun := true } = false := rfl
  obtain ⟨inSummary, hread⟩ := Progress.foldlM_read hbanner
    ((phase.untilClosing (first :: tail)).zipIdx (before.length + 1))
  refine ⟨inSummary, ?_⟩
  rw [scan_append_of_not_opens hbefore, hopened, scan_of_hasBegun rfl rfl,
    Nat.add_comm 1 before.length, hread]
  unfold summaryLines
  cases List.foldlM readLine {} _ <;> rfl

/-- **A test suite by the window** of its phase: the summary in it is read line by line. -/
theorem ofLog_eq (phase : Phase) (log : List Text) :
    ofLog phase log =
      match phase.window? log with
      | none => .ok {}
      | some window => do
        let run ← (summaryLines window).foldlM readLine {}
        return { run with status := .ofSuccess (window.isClosed && run.failed = some 0) } := by
  cases hwindow : phase.window? log with
  | none =>
    have hnever := scan_append_of_not_opens (Phase.window?_eq_none_iff.mp hwindow) [] 1
    rw [List.append_nil] at hnever
    rw [ofLog, hnever]
    rfl
  | some window =>
    obtain ⟨before, rest, hbegins, rfl⟩ := Phase.exists_begins_window hwindow
    obtain ⟨inSummary, hscan⟩ := scan_of_begins hbegins
    simp only [ofLog, hscan]
    cases List.foldlM readLine {} _ <;> rfl

end TestRun

/-! ## Changed files -/

namespace Phase

variable {item : Text}

/-- **In an open phase** the items are listed up to a closing that is none of them. -/
theorem listedFrom_true (phase : Phase) (item : Text) (lines : List Text) :
    phase.listedFrom item true lines =
      ((lines.takeWhile fun line => item.occursIn line || !phase.closes line).filter
        item.occursIn).map Text.lastWord := by
  induction lines with
  | nil => rfl
  | cons line rest ih =>
    rw [listedFrom, if_neg (by simp), List.takeWhile_cons]
    cases hitem : item.occursIn line with
    | true => simp [hitem, ih]
    | false => cases hcloses : phase.closes line <;> simp [hitem, ih]

/-- The lines up to the opening list nothing. -/
theorem listedFrom_false (phase : Phase) (item : Text) (lines : List Text) :
    phase.listedFrom item false lines =
      phase.listedFrom item true ((lines.dropWhile (!phase.opens ·)).drop 1) := by
  induction lines with
  | nil => rfl
  | cons line rest ih =>
    rw [listedFrom, if_pos (by simp)]
    cases hopens : phase.opens line with
    | true => rw [List.dropWhile_cons_of_neg (by simp [hopens]), List.drop_one, List.tail_cons]
    | false => rw [ih, List.dropWhile_cons_of_pos (by simp [hopens])]

/-- **The changed files** are the last words of the item lines after the opening, up to the first
line that carries the closing marker and no item. -/
theorem changedFiles_eq (phase : Phase) (item : Text) (log : List Text) :
    phase.changedFiles item log =
      if phase.status log = .passed then
        ((log.dropWhile (!phase.opens ·)).drop 1
          |>.takeWhile (fun line => item.occursIn line || !phase.closes line)
          |>.filter item.occursIn).map Text.lastWord
      else [] := by
  rw [changedFiles, listedFrom_false, listedFrom_true]

end Phase

end BuildSummary
