import BuildSummary.Proofs.Reading

/-!
# The summary of the tests

The summary of a phase begins with the first of its lines that is the banner but for blanks. It can
be read if no line of it carries the label of a count that is not there, and then each count is that
of the last line with its label.

## Main definitions

* `TestRun.summary`: the lines of the summary
* `TestCount.IsMalformedOn`: the line carries the label of a count that cannot be read
* `TestCount.latest`: the count on the last line with its label

## Main results

* `TestRun.foldlM_readLine_eq_ok_iff`: when a summary can be read, and what it tells
* `TestRun.exists_ofLog_error_iff`: when a log cannot be read
* `TestRun.exists_ofLog_passed_iff`: when the tests passed, in terms of the lines of the log
-/

namespace BuildSummary

/-! ## The count on the last line with its label -/

namespace TestCount

variable {count : TestCount} {current : Option Nat} {line last : Text}
  {before after lines : List Text}

/-- The line carries the label of the count, and the count cannot be read. -/
def IsMalformedOn (count : TestCount) (line : Text) : Prop :=
  count.label.occursIn line = true ∧ count.read? line = none

/-- The count after one more line. -/
def update (count : TestCount) (current : Option Nat) (line : Text) : Option Nat :=
  if count.label.occursIn line then count.read? line else current

/-- The count on the last of the lines with its label, `current` if there is none. -/
def latest (count : TestCount) (current : Option Nat) (lines : List Text) : Option Nat :=
  lines.foldl count.update current

theorem latest_of_forall_not (h : ∀ line ∈ lines, count.label.occursIn line = false) :
    count.latest current lines = current := by
  induction lines generalizing current with
  | nil => rfl
  | cons line rest ih =>
    rw [List.forall_mem_cons] at h
    have hupdate : count.update current line = current := by simp [update, h.1]
    rw [latest, List.foldl_cons, hupdate]
    exact ih h.2

theorem latest_append_cons (hlast : count.label.occursIn last = true)
    (hafter : ∀ line ∈ after, count.label.occursIn line = false) :
    count.latest current (before ++ last :: after) = count.read? last := by
  have hupdate (current : Option Nat) : count.update current last = count.read? last := by
    simp [update, hlast]
  rw [latest, List.foldl_append, List.foldl_cons, hupdate]
  exact latest_of_forall_not hafter

/-- Of the lines with the label, one is the last. -/
theorem exists_last_label (h : ∃ line ∈ lines, count.label.occursIn line = true) :
    ∃ before last after, lines = before ++ last :: after ∧ count.label.occursIn last = true ∧
      ∀ line ∈ after, count.label.occursIn line = false := by
  obtain ⟨line, hline, hlabel⟩ := h
  obtain ⟨last, hlast⟩ := Option.isSome_iff_exists.mp
    (List.find?_isSome.mpr ⟨line, List.mem_reverse.mpr hline, hlabel⟩)
  obtain ⟨hlabel, after, before, hlines, hafter⟩ := List.find?_eq_some_iff_append.mp hlast
  refine ⟨before.reverse, last, after.reverse, ?_, hlabel, ?_⟩
  · rw [← List.reverse_reverse lines, hlines]
    simp
  · simpa using hafter

/-- A count is known after some lines if and only if the last line with its label tells it. -/
theorem latest_none_eq_some_iff {n : Nat} :
    count.latest none lines = some n ↔
      ∃ before last after, lines = before ++ last :: after ∧ count.label.occursIn last = true ∧
        (∀ line ∈ after, count.label.occursIn line = false) ∧ count.read? last = some n := by
  constructor
  · intro h
    by_cases hlabel : ∃ line ∈ lines, count.label.occursIn line = true
    · obtain ⟨before, last, after, rfl, hlast, hafter⟩ := exists_last_label hlabel
      rw [latest_append_cons hlast hafter] at h
      exact ⟨before, last, after, rfl, hlast, hafter, h⟩
    · rw [latest_of_forall_not (by simpa using hlabel)] at h
      cases h
  · rintro ⟨before, last, after, rfl, hlast, hafter, hread⟩
    rw [latest_append_cons hlast hafter, hread]

/-- No test failed on a line if and only if its first word of digits is a zero. -/
theorem read?_failed_eq_some_zero_iff :
    failed.read? line = some 0 ↔
      ∃ word, (Text.words line).find? Text.isDigits = some word ∧
        Nat.ofDigitChars 10 word 0 = 0 := by
  unfold read?
  cases hfind : (Text.words line).find? Text.isDigits with
  | none => simp
  | some word =>
    have hdigits : word.isDigits = true := List.find?_some hfind
    simp only [Option.bind_eq_bind, Option.bind_some, Option.some.injEq, exists_eq_left']
    unfold Text.digits?
    simp only [hdigits, Bool.true_and, decide_eq_true_eq]
    constructor
    · intro h
      split at h
      · exact Option.some.inj h
      · cases h
    · intro h
      rw [h, if_pos (by decide)]

theorem readCount_eq_ok_iff {number : Nat} {value : Option Nat} :
    TestRun.readCount count current line number = .ok value ↔
      ¬ count.IsMalformedOn line ∧ value = count.update current line := by
  unfold TestRun.readCount IsMalformedOn update
  cases hlabel : count.label.occursIn line with
  | false => simp [eq_comm]
  | true => cases hread : count.read? line <;> simp [eq_comm]

end TestCount

/-! ## The summary as a whole -/

namespace TestRun

variable {phase : Phase} {log lines : List Text}

/-- The lines of the summary: those from the banner on. -/
def summary (lines : List Text) : List Text :=
  lines.dropWhile (Text.trim · ≠ banner)

theorem map_summaryLines (window : Window) :
    (summaryLines window).map (·.1) = summary window.lines := by
  unfold summaryLines summary
  -- the numbers play no part in where the summary begins
  conv => rhs; rw [← List.zipIdx_map_fst (window.offset + 1) window.lines]
  rw [List.dropWhile_map]
  rfl

theorem readLine_eq_ok_iff {run run' : TestRun} {numbered : Text × Nat} :
    readLine run numbered = .ok run' ↔
      (∀ count : TestCount, ¬ count.IsMalformedOn numbered.1) ∧
        run' = { run with
          total := TestCount.total.update run.total numbered.1
          failed := TestCount.failed.update run.failed numbered.1 } := by
  unfold readLine
  simp only [bind_eq_ok_iff, TestCount.readCount_eq_ok_iff, pure, Except.pure, Except.ok.injEq]
  constructor
  · rintro ⟨total, ⟨htotal, rfl⟩, failed, ⟨hfailed, rfl⟩, rfl⟩
    refine ⟨fun count => ?_, rfl⟩
    cases count with
    | total => exact htotal
    | failed => exact hfailed
  · rintro ⟨h, rfl⟩
    exact ⟨_, ⟨h .total, rfl⟩, _, ⟨h .failed, rfl⟩, rfl⟩

/-- **When a summary can be read, and what it tells.** -/
theorem foldlM_readLine_eq_ok_iff {run run' : TestRun} {numbered : List (Text × Nat)} :
    numbered.foldlM readLine run = .ok run' ↔
      (∀ line ∈ numbered.map (·.1), ∀ count : TestCount, ¬ count.IsMalformedOn line) ∧
        run' = { run with
          total := TestCount.total.latest run.total (numbered.map (·.1))
          failed := TestCount.failed.latest run.failed (numbered.map (·.1)) } := by
  -- the counts so far are generalized, since each line overrides those before it
  induction numbered generalizing run with
  | nil => simp [pure, Except.pure, TestCount.latest, eq_comm]
  | cons first rest ih =>
    rw [List.foldlM_cons, bind_eq_ok_iff, List.map_cons, List.forall_mem_cons]
    constructor
    · rintro ⟨next, hnext, hrest⟩
      obtain ⟨hfirst, rfl⟩ := readLine_eq_ok_iff.mp hnext
      obtain ⟨hlines, rfl⟩ := ih.mp hrest
      exact ⟨⟨hfirst, hlines⟩, rfl⟩
    · rintro ⟨⟨hfirst, hrest⟩, rfl⟩
      exact ⟨_, readLine_eq_ok_iff.mpr ⟨hfirst, rfl⟩, ih.mpr ⟨hrest, rfl⟩⟩

/-- What a log with a window for the tests tells. -/
theorem ofLog_eq_ok_iff {run : TestRun} {offset : Nat} {isClosed : Bool}
    (h : phase.window? log = some ⟨offset, lines, isClosed⟩) :
    ofLog phase log = .ok run ↔
      (∀ line ∈ summary lines, ∀ count : TestCount, ¬ count.IsMalformedOn line) ∧
        run = {
          status := .ofSuccess (isClosed && TestCount.failed.latest none (summary lines) = some 0)
          total := TestCount.total.latest none (summary lines)
          failed := TestCount.failed.latest none (summary lines) } := by
  rw [ofLog_eq, h]
  simp only [bind_eq_ok_iff, foldlM_readLine_eq_ok_iff, map_summaryLines, pure, Except.pure,
    Except.ok.injEq]
  constructor
  · rintro ⟨read, ⟨hsummary, rfl⟩, rfl⟩
    exact ⟨hsummary, rfl⟩
  · rintro ⟨hsummary, rfl⟩
    exact ⟨_, ⟨hsummary, rfl⟩, rfl⟩

/-- A log cannot be read if and only if some line of the summary carries the label of a count that
cannot be read. -/
theorem exists_ofLog_error_iff :
    (∃ e, ofLog phase log = .error e) ↔
      ∃ window, phase.window? log = some window ∧
        ∃ line ∈ summary window.lines, ∃ count : TestCount, count.IsMalformedOn line := by
  cases hwindow : phase.window? log with
  | none =>
    refine iff_of_false ?_ nofun
    rintro ⟨e, he⟩
    rw [ofLog_eq, hwindow] at he
    cases he
  | some window =>
    obtain ⟨offset, lines, isClosed⟩ := window
    constructor
    · rintro ⟨e, he⟩
      refine ⟨_, rfl, ?_⟩
      by_contra hnone
      have hsummary : ∀ line ∈ summary lines, ∀ count : TestCount, ¬ count.IsMalformedOn line :=
        fun line hline count h => hnone ⟨line, hline, count, h⟩
      rw [(ofLog_eq_ok_iff hwindow).mpr ⟨hsummary, rfl⟩] at he
      cases he
    · rintro ⟨_, ⟨⟩, line, hline, count, h⟩
      cases hlog : ofLog phase log with
      | error e => exact ⟨e, rfl⟩
      | ok run => exact absurd h (((ofLog_eq_ok_iff hwindow).mp hlog).1 line hline count)

/-- **The tests passed** if and only if their phase was completed, its summary can be read, and no
test failed according to the last line that tells it. -/
theorem exists_ofLog_passed_iff :
    (∃ run, ofLog phase log = .ok run ∧ run.status = .passed) ↔
      ∃ lines, phase.Completes log lines ∧
        (∀ line ∈ summary lines, ∀ count : TestCount, ¬ count.IsMalformedOn line) ∧
        TestCount.failed.latest none (summary lines) = some 0 := by
  constructor
  -- of the three ways of a phase, only a completed one can pass
  · rintro ⟨run, hrun, hpassed⟩
    rcases phase.never_or_completes_or_unfinished log with hnever | ⟨lines, h⟩ | ⟨lines, h⟩
    · rw [ofLog_eq, Phase.window?_eq_none_iff.mpr hnever] at hrun
      cases hrun
      cases hpassed
    · obtain ⟨offset, hwindow⟩ := h.window?
      obtain ⟨hsummary, rfl⟩ := (ofLog_eq_ok_iff hwindow).mp hrun
      refine ⟨lines, h, hsummary, ?_⟩
      simpa [Status.ofSuccess] using hpassed
    · obtain ⟨offset, hwindow⟩ := h.window?
      obtain ⟨-, rfl⟩ := (ofLog_eq_ok_iff hwindow).mp hrun
      simp [Status.ofSuccess] at hpassed
  · rintro ⟨lines, h, hsummary, hfailed⟩
    obtain ⟨offset, hwindow⟩ := h.window?
    exact ⟨_, (ofLog_eq_ok_iff hwindow).mpr ⟨hsummary, rfl⟩, by simp [hfailed, Status.ofSuccess]⟩

end TestRun

end BuildSummary
