import BuildSummary.Proofs.TestSummary
import BuildSummary.BuildRecord

/-!
# Growing logs

A log is read while the build still writes to it. Lines that come later never take back what the
lines so far have settled: a part of the build only gets further, counts and analysed files only
grow, and a phase that is closed keeps what was read from it. This holds whatever comes later, be it
phases that begin again, stray markers, or counts that cannot be read.

## Main definitions

* `Window.ContinuesTo`: what later lines make of a window
* `Compilation.GrowsTo`, `Findings.GrowsTo`, `BuildRecord.GrowsTo`: nothing was taken back

## Main results

* `Phase.window?_append`: later lines continue the window of a phase
* `Checker.growsTo_findings?_append`: later lines continue the findings of a checker
* `BuildRecord.growsTo_ofLog_append`: later lines take nothing back
-/

namespace BuildSummary

variable {phase : Phase} {log : List Text}

/-! ## What it is to grow -/

namespace Status

/-- How far a part of the build has come. -/
def rank : Status → Nat
  | skipped => 0
  | failed => 1
  | passed => 2

/-- Skipped is lowest, then failed, then passed. -/
instance : LE Status where
  le a b := a.rank ≤ b.rank

theorem skipped_le (status : Status) : skipped ≤ status :=
  Nat.zero_le _

theorem failed_le_ofSuccess (success : Bool) : failed ≤ ofSuccess success := by
  cases success
  · exact Nat.le_refl 1
  · exact Nat.le_succ 1

end Status

namespace Index

/-- Every count is there and at most as high; a missing count is lower than any. -/
instance : LE (Index Nat) where
  le a b := ∀ key, a.get? key ≤ b.get? key

theorem tally_le_tally {keys more : List Text} (h : keys.Sublist more) :
    tally keys ≤ tally more := by
  intro key
  rw [get?_tally, get?_tally]
  -- a key that is not counted at all is no bound on its later count
  by_cases hkey : key ∈ keys
  · rw [if_pos hkey, if_pos (h.subset hkey)]
    simpa using h.count_le key
  · rw [if_neg hkey]
    simp

end Index

/-- Nothing that was read of a compilation is taken back: it stays begun, and no count sinks. -/
structure Compilation.GrowsTo (compilation later : Compilation) : Prop where
  begun : compilation.status ≠ .skipped → later.status ≠ .skipped
  errorCount : compilation.errorCount ≤ later.errorCount
  errors : compilation.errors ≤ later.errors
  warningCount : compilation.warningCount ≤ later.warningCount
  warnings : compilation.warnings ≤ later.warnings

/-- A checker that ran still ran, and its files are still analysed. -/
def Findings.GrowsTo (findings later : Option Findings) : Prop :=
  ∀ before ∈ findings, ∃ after ∈ later, ∀ file ∈ before.files, file ∈ after.files

/-- Nothing of a record is taken back, except that an upload may turn out to be skipped. -/
structure BuildRecord.GrowsTo (record later : BuildRecord) : Prop where
  veraSetup : record.veraSetup ≤ later.veraSetup
  cppcheckSetup : record.cppcheckSetup ≤ later.cppcheckSetup
  clangFormatSetup : record.clangFormatSetup ≤ later.clangFormatSetup
  configuration : record.configuration ≤ later.configuration
  installation : record.installation ≤ later.installation
  compilation : record.compilation.GrowsTo later.compilation
  tests : record.tests.status ≠ .skipped → later.tests.status ≠ .skipped
  vera : Findings.GrowsTo record.vera later.vera
  cppcheck : Findings.GrowsTo record.cppcheck later.cppcheck
  clangFormat : Findings.GrowsTo record.clangFormat later.clangFormat
  pep8 : Findings.GrowsTo record.pep8 later.pep8
  isUploaded : later.isUploaded = true → record.isUploaded = true

/-! ## Phases -/

/-- What later lines make of a window: it stands at the same place, its lines may go on, and if it
is closed nothing changes. -/
structure Window.ContinuesTo (window later : Window) : Prop where
  offset_eq : later.offset = window.offset
  isPrefix_lines : window.lines <+: later.lines
  eq_of_isClosed : window.isClosed = true → later = window

namespace Phase

variable {before rest lines : List Text} {window : Window}

theorem Begins.append (h : phase.Begins log before rest) (more : List Text) :
    phase.Begins (log ++ more) before (rest ++ more) := by
  obtain ⟨rfl, hbefore, first, hfirst, hopen⟩ := h
  refine ⟨List.append_assoc before rest more, hbefore, first, ?_, hopen⟩
  obtain ⟨tail, rfl⟩ := List.head?_eq_some_iff.mp hfirst
  rfl

/-- **Later lines continue the window of a phase.** -/
theorem window?_append (h : phase.window? log = some window) (more : List Text) :
    ∃ later, phase.window? (log ++ more) = some later ∧ window.ContinuesTo later := by
  obtain ⟨before, rest, hbegins⟩ := exists_begins_of_window?_eq_some h
  obtain rfl := Option.some.inj (hbegins.window?.symm.trans h)
  refine ⟨_, (hbegins.append more).window?, ?_⟩
  -- the window ends within the log at the first closing, or goes on behind its end
  cases hclose : rest.find? phase.closes with
  | some last =>
    obtain ⟨hlast, inside, after, rfl, hinside⟩ := List.find?_eq_some_iff_append.mp hclose
    rw [List.append_assoc, List.cons_append, List.takeWhile_append_of_pos hinside,
      List.takeWhile_append_of_pos hinside, List.dropWhile_append_of_pos hinside,
      List.dropWhile_append_of_pos hinside]
    simp only [hlast, Bool.not_true, Bool.false_eq_true, not_false_eq_true,
      List.takeWhile_cons_of_neg, List.dropWhile_cons_of_neg, List.take_succ_cons, List.take_zero,
      List.any_append, List.any_cons, Bool.true_or, Bool.or_true]
    exact ⟨rfl, List.prefix_refl _, fun _ => rfl⟩
  | none =>
    have hnot : ∀ line ∈ rest, (!phase.closes line) = true := by simpa using hclose
    have hopened : rest.any phase.closes = false := by simpa using hclose
    have hdrop := List.dropWhile_eq_nil_iff.mpr hnot
    rw [List.takeWhile_append_of_pos hnot, List.takeWhile_eq_self_iff.mpr hnot, hdrop, hopened]
    refine ⟨rfl, ?_, nofun⟩
    rw [List.take_nil, List.append_nil, List.append_assoc]
    exact List.prefix_append rest _

theorem Completes.window?_append (h : phase.Completes log lines) (more : List Text) :
    phase.window? (log ++ more) = phase.window? log := by
  obtain ⟨offset, hwindow⟩ := h.window?
  obtain ⟨later, hlater, hcontinues⟩ := Phase.window?_append hwindow more
  rw [hlater, hwindow, hcontinues.eq_of_isClosed rfl]

/-- **A phase only gets further.** -/
theorem status_le_append (phase : Phase) (log more : List Text) :
    phase.status log ≤ phase.status (log ++ more) := by
  rw [status_eq, status_eq]
  cases hwindow : phase.window? log with
  | none => exact Status.skipped_le _
  | some window =>
    obtain ⟨later, hlater, hcontinues⟩ := window?_append hwindow more
    rw [hlater]
    cases hclosed : window.isClosed with
    | true =>
      rw [hcontinues.eq_of_isClosed hclosed]
      exact Nat.le_refl _
    | false =>
      simp only [hclosed]
      exact Status.failed_le_ofSuccess _

end Phase

/-! ## The compilation -/

namespace Compilation

theorem perFile_le_perFile {diagnostics more : List Text} (h : diagnostics <+: more) :
    perFile diagnostics ≤ perFile more :=
  Index.tally_le_tally (h.sublist.map fileOf)

/-- **No diagnostic is taken back.** -/
theorem growsTo_append (phase : Phase) (log more : List Text) :
    (ofLog phase log).GrowsTo (ofLog phase (log ++ more)) := by
  rw [ofLog_eq, ofLog_eq]
  cases hwindow : phase.window? log with
  -- what is not known of a phase that has not begun is lower than anything
  | none => exact ⟨fun h => absurd rfl h, by simp, by simp, by simp, by simp⟩
  | some window =>
    obtain ⟨later, hlater, hcontinues⟩ := Phase.window?_append hwindow more
    rw [hlater]
    have hpre (severity : Severity) :
        diagnostics severity window.lines <+: diagnostics severity later.lines :=
      hcontinues.isPrefix_lines.filter _
    exact {
      begun := fun _ => Status.ofSuccess_ne_skipped _
      errorCount := by simpa using (hpre .error).length_le
      errors := by simpa using perFile_le_perFile (hpre .error)
      warningCount := by simpa using (hpre .warning).length_le
      warnings := by simpa using perFile_le_perFile (hpre .warning) }

theorem ofLog_append_of_completes {lines : List Text} (h : phase.Completes log lines)
    (more : List Text) : ofLog phase (log ++ more) = ofLog phase log := by
  rw [ofLog_eq, ofLog_eq, h.window?_append]

end Compilation

/-! ## The tests -/

namespace TestRun

/-- A summary goes on when its window does. -/
theorem isPrefix_summaryLines {window later : Window} (h : window.ContinuesTo later) :
    summaryLines window <+: summaryLines later := by
  obtain ⟨rest, hrest⟩ := h.isPrefix_lines
  unfold summaryLines
  rw [h.offset_eq, ← hrest, List.zipIdx_append, List.dropWhile_append]
  split
  -- no banner so far, so there is no summary yet
  · rename_i hempty
    rw [List.isEmpty_iff.mp hempty]
    exact List.nil_prefix
  · exact List.prefix_append _ _

/-- A log cannot be read exactly if its summary cannot. -/
theorem ofLog_eq_error_iff {window : Window} {e : MalformedCount}
    (h : phase.window? log = some window) :
    ofLog phase log = .error e ↔ (summaryLines window).foldlM readLine {} = .error e := by
  simp only [ofLog_eq, h, bind_eq_error_iff]
  constructor
  · rintro (hread | ⟨run, -, hrun⟩)
    · exact hread
    · cases hrun
  · exact .inl

/-- A count that cannot be read stays in the way. -/
theorem ofLog_append_eq_error {e : MalformedCount} (h : ofLog phase log = .error e)
    (more : List Text) : ofLog phase (log ++ more) = .error e := by
  cases hwindow : phase.window? log with
  | none =>
    rw [ofLog_eq, hwindow] at h
    cases h
  | some window =>
    obtain ⟨later, hlater, hcontinues⟩ := Phase.window?_append hwindow more
    obtain ⟨rest, hrest⟩ := isPrefix_summaryLines hcontinues
    rw [ofLog_eq_error_iff hwindow] at h
    -- the count is met before any later line is
    rw [ofLog_eq_error_iff hlater, ← hrest, List.foldlM_append]
    exact bind_eq_error_iff.mpr (.inl h)

theorem ofLog_append_of_completes {lines : List Text} (h : phase.Completes log lines)
    (more : List Text) : ofLog phase (log ++ more) = ofLog phase log := by
  rw [ofLog_eq, ofLog_eq, h.window?_append]

theorem status_eq_skipped_iff {run : TestRun} (h : ofLog phase log = .ok run) :
    run.status = .skipped ↔ phase.window? log = none := by
  rw [ofLog_eq] at h
  cases hwindow : phase.window? log with
  | none =>
    rw [hwindow] at h
    cases h
    exact iff_of_true rfl rfl
  | some window =>
    rw [hwindow] at h
    obtain ⟨read, -, hrun⟩ := bind_eq_ok_iff.mp h
    cases hrun
    exact iff_of_false (Status.ofSuccess_ne_skipped _) (Option.some_ne_none _)

theorem status_ne_skipped_append {run later : TestRun} {more : List Text}
    (hrun : ofLog phase log = .ok run) (hlater : ofLog phase (log ++ more) = .ok later)
    (h : run.status ≠ .skipped) : later.status ≠ .skipped := by
  rw [ne_eq, status_eq_skipped_iff hrun, ← ne_eq, Option.ne_none_iff_exists'] at h
  obtain ⟨window, hwindow⟩ := h
  obtain ⟨later', hlater', -⟩ := Phase.window?_append hwindow more
  rw [ne_eq, status_eq_skipped_iff hlater, hlater']
  exact Option.some_ne_none _

end TestRun

/-! ## The checkers -/

namespace Findings

theorem GrowsTo.refl (findings : Option Findings) : GrowsTo findings findings :=
  fun before h => ⟨before, h, fun _ hfile => hfile⟩

theorem GrowsTo.trans {a b c : Option Findings} (hab : GrowsTo a b) (hbc : GrowsTo b c) :
    GrowsTo a c := by
  intro first hfirst
  obtain ⟨second, hsecond, hfiles⟩ := hab first hfirst
  obtain ⟨third, hthird, hfiles'⟩ := hbc second hsecond
  exact ⟨third, hthird, fun file hfile => hfiles' file (hfiles file hfile)⟩

theorem growsTo_alter (findings : Option Findings) (file : Text)
    (f : Option (Index Nat) → Index Nat) :
    GrowsTo findings (some ((findings.getD ∅).alter file f)) := by
  rintro before rfl
  refine ⟨_, rfl, fun other hother => ?_⟩
  rw [files, Index.mem_keys_iff] at hother ⊢
  rw [Option.getD_some, Index.contains_alter, hother, Bool.or_true]

end Findings

namespace Checker

/-- One line takes back no file. -/
theorem growsTo_scan (checker : Checker) (progress : Progress) (line : Text) :
    Findings.GrowsTo progress.findings (checker.scan progress line).findings := by
  unfold scan
  -- a line begins a file, adds a message to the file of the run, or leaves the findings alone
  split
  · split
    · exact Findings.growsTo_alter _ _ _
    · exact .refl _
  · split
    · split
      · exact Findings.growsTo_alter _ _ _
      · exact .refl _
    · split
      · exact .refl _
      · exact .refl _

theorem growsTo_foldl_scan (checker : Checker) (progress : Progress) (lines : List Text) :
    Findings.GrowsTo progress.findings (lines.foldl checker.scan progress).findings := by
  -- a run may have begun, so the progress from which the lines are read is generalized
  induction lines generalizing progress with
  | nil => exact .refl _
  | cons line rest ih => exact (checker.growsTo_scan progress line).trans (ih _)

/-- **No analysed file is taken back.** -/
theorem growsTo_findings?_append (checker : Checker) (log more : List Text) :
    Findings.GrowsTo (checker.findings? log) (checker.findings? (log ++ more)) := by
  unfold findings?
  rw [List.foldl_append]
  exact checker.growsTo_foldl_scan _ more

end Checker

/-! ## The whole record -/

namespace BuildRecord

theorem ofLog_eq_error_iff {e : MalformedCount} :
    ofLog log = .error e ↔ TestRun.ofLog .testing log = .error e := by
  unfold ofLog
  rw [bind_eq_error_iff]
  exact or_iff_left fun ⟨tests, _, h⟩ => nomatch h

/-- **Later lines take nothing back.** A count that cannot be read stays the error; of a log that
can be read with and without the later lines, the record only grows, and a compilation that is
closed stays as it is; and once the tests are closed, the log stays readable and they stay as they
are. -/
theorem growsTo_ofLog_append (log more : List Text) :
    (∀ e, ofLog log = .error e → ofLog (log ++ more) = .error e) ∧
      (∀ record later, ofLog log = .ok record → ofLog (log ++ more) = .ok later →
        record.GrowsTo later ∧
          ((∃ lines, Phase.compilation.Completes log lines) →
            later.compilation = record.compilation)) ∧
      ∀ record, ofLog log = .ok record → (∃ lines, Phase.testing.Completes log lines) →
        ∃ later, ofLog (log ++ more) = .ok later ∧ later.tests = record.tests := by
  refine ⟨fun e h => ?_, fun record later hrecord hlater => ?_, fun record hrecord h => ?_⟩
  -- only the tests can keep a log from being read
  · exact ofLog_eq_error_iff.mpr (TestRun.ofLog_append_eq_error (ofLog_eq_error_iff.mp h) more)
  · obtain ⟨tests, htests, rfl⟩ := ofLog_eq_ok_iff.mp hrecord
    obtain ⟨laterTests, hlaterTests, rfl⟩ := ofLog_eq_ok_iff.mp hlater
    refine ⟨?_, fun ⟨lines, hlines⟩ => Compilation.ofLog_append_of_completes hlines more⟩
    exact {
      veraSetup := Phase.status_le_append _ log more
      cppcheckSetup := Phase.status_le_append _ log more
      clangFormatSetup := Phase.status_le_append _ log more
      configuration := Phase.status_le_append _ log more
      installation := Phase.status_le_append _ log more
      compilation := Compilation.growsTo_append _ log more
      tests := TestRun.status_ne_skipped_append htests hlaterTests
      vera := Checker.growsTo_findings?_append _ log more
      cppcheck := Checker.growsTo_findings?_append _ log more
      clangFormat := Checker.growsTo_findings?_append _ log more
      pep8 := Checker.growsTo_findings?_append _ log more
      isUploaded := by
        simp only [assemble, List.any_append, Bool.not_or, Bool.and_eq_true]
        exact And.left }
  -- closed tests are those of the log so far, so it can be read as before
  · obtain ⟨tests, htests, rfl⟩ := ofLog_eq_ok_iff.mp hrecord
    obtain ⟨lines, hlines⟩ := h
    refine ⟨assemble (log ++ more) tests, ofLog_eq_ok_iff.mpr ⟨tests, ?_, rfl⟩, rfl⟩
    rw [TestRun.ofLog_append_of_completes hlines, htests]

/-- The compilation and the tests are closed, and begin again with an error and a count that cannot
be read. -/
theorem growsTo_ofLog_append_begun_again :
    ∃ log more record later, ofLog log = .ok record ∧ ofLog (log ++ more) = .ok later ∧
      record.GrowsTo later ∧ later.compilation = record.compilation ∧
        later.tests = record.tests := by
  let log : List Text :=
    ["MSGBLD0250: Running make.", "a.cpp:1: warning: unused", "MSGBLD0260: Make completed.",
      "MSGBLD0290: Running make installcheck.", "NEST Testsuite Summary", "Failed 0 of 42",
      "MSGBLD0300: Make installcheck completed."]
  let more : List Text :=
    ["MSGBLD0250: Running make.", "a.cpp:1: error: undeclared",
      "MSGBLD0290: Running make installcheck.", "NEST Testsuite Summary", "Failed"]
  have htests : TestRun.ofLog .testing log = .ok { status := .passed, failed := some 0 } := by
    decide
  have hrecord : ofLog log = .ok (assemble log { status := .passed, failed := some 0 }) :=
    ofLog_eq_ok_iff.mpr ⟨_, htests, rfl⟩
  have hcompleted (phase : Phase) (h : phase.status log = .passed) :
      ∃ lines, phase.Completes log lines := Phase.status_eq_passed_iff_completes.mp h
  obtain ⟨-, hgrows, hsettled⟩ := growsTo_ofLog_append log more
  obtain ⟨later, hlater, hsame⟩ := hsettled _ hrecord (hcompleted .testing (by decide))
  obtain ⟨hgrowsTo, hcompilation⟩ := hgrows _ later hrecord hlater
  exact ⟨log, more, _, later, hrecord, hlater, hgrowsTo,
    hcompilation (hcompleted .compilation (by decide)), hsame⟩

end BuildRecord

end BuildSummary
