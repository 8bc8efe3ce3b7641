import BuildSummary.Proofs.Explanation
import BuildSummary.Proofs.Growth

/-!
# The whole report or nothing

Once its arguments are accepted, the program prints the whole report on the log and exits with the
verdict that the last line tells, or it prints nothing on standard output and exits with failure.
Whatever keeps it from reporting is found before the first line is printed: in the path, in the
width, in the bytes of the log, or in what the log says of the tests and of the analysed files.

## Main definitions

* `Options.Reports`: a report on the log to which a path leads
* `Options.Refuses`: what keeps the program from reporting

## Main results

* `Options.reports_or_refuses`, `Options.not_refuses_of_reports`: there is a report unless something
  keeps the program from it, and never both
* `Outcome.summary_eq_ok_iff`: when there is a summary, and which
* `Outcome.report_or_nothing`: what a run of the program prints, and its exit code
-/

namespace BuildSummary

namespace Options

/-- The report on the log to which the path leads, laid out and decided as the options say. -/
def Reports (options : Options) (path : PathState) (report : Report) : Prop :=
  ∃ bytes record, path = .file bytes ∧ BuildRecord.ofLog (logLines bytes) = .ok record ∧
    Report.ofRecord (.bordered options.width) options.policy record = .ok report

/-- What keeps the program from reporting. -/
inductive Refuses (options : Options) : PathState → Prop
  /-- The path leads nowhere. -/
  | missing : Refuses options .missing
  /-- The path leads to a directory. -/
  | directory : Refuses options .directory
  /-- The log cannot be read. -/
  | unreadable : Refuses options .unreadable
  /-- The terminal is too narrow. -/
  | narrow (path : PathState) (h : options.width < minWidth) : Refuses options path
  /-- A line of the test summary carries the label of a count that cannot be read. -/
  | malformedCount {bytes : List UInt8} {window : Window} {line : Text} {count : TestCount}
      (hwindow : Phase.testing.window? (logLines bytes) = some window)
      (hline : line ∈ TestRun.summary window.lines) (h : count.IsMalformedOn line) :
      Refuses options (.file bytes)
  /-- The report is refused, since the C++ checkers ran on different files. -/
  | inconsistentFiles {bytes : List UInt8} {record : BuildRecord} {e : InconsistentFiles}
      (hrecord : BuildRecord.ofLog (logLines bytes) = .ok record)
      (h : Report.ofRecord (.bordered options.width) options.policy record = .error e) :
      Refuses options (.file bytes)

variable {options : Options} {path : PathState} {report : Report}

/-- **There is a report** unless something keeps the program from it. -/
theorem reports_or_refuses (options : Options) (path : PathState) :
    options.Refuses path ∨ minWidth ≤ options.width ∧ ∃ report, options.Reports path report := by
  rcases Nat.lt_or_ge options.width minWidth with hnarrow | hwidth
  · exact .inl (.narrow path hnarrow)
  cases path with
  | missing => exact .inl .missing
  | directory => exact .inl .directory
  | unreadable => exact .inl .unreadable
  | file bytes =>
    cases hrecord : BuildRecord.ofLog (logLines bytes) with
    | error e =>
      have hlog := BuildRecord.ofLog_eq_error_iff.mp hrecord
      obtain ⟨window, hwindow, line, hline, count, h⟩ :=
        TestRun.exists_ofLog_error_iff.mp ⟨e, hlog⟩
      exact .inl (.malformedCount hwindow hline h)
    | ok record =>
      cases h : Report.ofRecord (.bordered options.width) options.policy record with
      | error e => exact .inl (.inconsistentFiles hrecord h)
      | ok report => exact .inr ⟨hwidth, report, bytes, record, rfl, hrecord, h⟩

/-- Nothing keeps the program from a report that there is. -/
theorem not_refuses_of_reports (hwidth : minWidth ≤ options.width)
    (h : options.Reports path report) : ¬ options.Refuses path := by
  obtain ⟨bytes, record, rfl, hrecord, hreport⟩ := h
  intro hrefuses
  cases hrefuses with
  | narrow _ hnarrow => exact Nat.not_lt.mpr hwidth hnarrow
  | malformedCount hwindow hline hmalformed =>
    obtain ⟨e, he⟩ := TestRun.exists_ofLog_error_iff.mpr ⟨_, hwindow, _, hline, _, hmalformed⟩
    cases (BuildRecord.ofLog_eq_error_iff.mpr he).symm.trans hrecord
  | inconsistentFiles hrecord' hrefused =>
    cases hrecord.symm.trans hrecord'
    cases hrefused.symm.trans hreport

end Options

namespace Outcome

variable {options : Options} {path : PathState} {report : Report}

/-- There is a summary exactly if the terminal is wide enough and there is a report, and it is that
of the report. -/
theorem summary_eq_ok_iff {s : Summary} : summary options path = .ok s ↔
    minWidth ≤ options.width ∧ ∃ report, options.Reports path report ∧
      s = ⟨report.text (.bordered options.width), report.succeeded⟩ := by
  constructor
  · intro h
    obtain ⟨⟨⟩, hvalid, hs⟩ := bind_eq_ok_iff.mp h
    cases path with
    | missing => cases hvalid
    | directory => cases hvalid
    | unreadable => cases hs
    | file bytes =>
      have hwidth : minWidth ≤ options.width := by
        apply Nat.le_of_not_lt
        intro hnarrow
        have hinvalid : options.validate (.file bytes) = .error (.narrowTerminal options.width) :=
          if_pos hnarrow
        cases hinvalid.symm.trans hvalid
      obtain ⟨record, hrecord, hsummary⟩ := Summary.ofLog_eq_ok_iff.mp hs
      obtain ⟨report, hreport, heq⟩ := bind_eq_ok_iff.mp hsummary
      exact ⟨hwidth, report, ⟨bytes, record, rfl, hrecord, hreport⟩, (Except.ok.inj heq).symm⟩
  · rintro ⟨hwidth, report, ⟨bytes, record, rfl, hrecord, hreport⟩, rfl⟩
    have hvalid : options.validate (.file bytes) = .ok () := if_neg (Nat.not_lt.mpr hwidth)
    refine bind_eq_ok_iff.mpr ⟨(), hvalid, Summary.ofLog_eq_ok_iff.mpr ⟨record, hrecord, ?_⟩⟩
    exact bind_eq_ok_iff.mpr ⟨report, hreport, rfl⟩

/-- A run that reports prints the whole report and exits with its verdict. -/
theorem ofOptions_of_reports (hwidth : minWidth ≤ options.width) (h : options.Reports path report) :
    (ofOptions options path).exitCode = exitCodeOf report.succeeded ∧
      (ofOptions options path).output = report.text (.bordered options.width) ++ ['\n'] := by
  unfold ofOptions
  rw [summary_eq_ok_iff.mpr ⟨hwidth, report, h, rfl⟩]
  exact ⟨rfl, rfl⟩

/-- A run that does not report prints nothing and exits with failure. -/
theorem ofOptions_of_refuses (h : options.Refuses path) :
    (ofOptions options path).exitCode = 1 ∧ (ofOptions options path).output = [] := by
  unfold ofOptions
  cases hsummary : summary options path with
  | error e => exact ⟨rfl, rfl⟩
  | ok s =>
    obtain ⟨hwidth, report, hreport, -⟩ := summary_eq_ok_iff.mp hsummary
    exact absurd h (Options.not_refuses_of_reports hwidth hreport)

/-- A report that is printed ends with its verdict. -/
theorem verdict_suffix_output (style : TableStyle) (report : Report) :
    '\n' :: Report.verdict report.succeeded ++ ['\n'] <:+ report.text style ++ ['\n'] := by
  obtain ⟨front, hfront⟩ := (Report.verdict_suffix_iff style report _).mpr rfl
  refine ⟨front, ?_⟩
  rw [← hfront, List.append_assoc]

/-- **The whole report or nothing.** Once the arguments are accepted, the program succeeds and
prints a report that tells the success, or fails and prints a report that tells the failure, or
fails and prints nothing; the last exactly if something keeps it from reporting. What is printed is
the report on the log to which the path leads, and a newline. -/
theorem report_or_nothing {arguments : List Text} (states : Text → PathState) (manual : Manual)
    (h : Options.parse arguments = .ok options) :
    let path := states options.logFile
    let outcome := ofArguments arguments states manual
    (outcome.exitCode = 0 ∧
        ("\nBUILD TERMINATED SUCCESSFULLY\n" : Text) <:+ outcome.output ∨
      outcome.exitCode = 1 ∧ ("\nBUILD FAILED\n" : Text) <:+ outcome.output ∨
      outcome.exitCode = 1 ∧ outcome.output = []) ∧
    (outcome.exitCode = 1 ∧ outcome.output = [] ↔ options.Refuses path) ∧
    (outcome.output ≠ [] → ∃ report, options.Reports path report ∧
      outcome.output = report.text (.bordered options.width) ++ ['\n']) := by
  intro path outcome
  have houtcome : outcome = ofOptions options path := by
    show ofArguments arguments states manual = _
    unfold ofArguments
    rw [h]
  rw [houtcome]
  rcases options.reports_or_refuses path with hrefuses | ⟨hwidth, report, hreport⟩
  · obtain ⟨hcode, hnothing⟩ := ofOptions_of_refuses hrefuses
    refine ⟨.inr (.inr ⟨hcode, hnothing⟩), ?_, ?_⟩
    · exact iff_of_true ⟨hcode, hnothing⟩ hrefuses
    · intro hsome
      exact absurd hnothing hsome
  · obtain ⟨hcode, houtput⟩ := ofOptions_of_reports hwidth hreport
    have hsome : (ofOptions options path).output ≠ [] := by
      rw [houtput]
      exact List.append_ne_nil_of_right_ne_nil _ (List.cons_ne_nil _ _)
    have hend := verdict_suffix_output (.bordered options.width) report
    rw [← houtput] at hend
    refine ⟨?_, ?_, ?_⟩
    -- the exit code and the last line tell the same verdict
    · cases hverdict : report.succeeded with
      | true =>
        rw [hverdict] at hcode hend
        exact .inl ⟨hcode, hend⟩
      | false =>
        rw [hverdict] at hcode hend
        exact .inr (.inl ⟨hcode, hend⟩)
    · refine iff_of_false ?_ ?_
      · rintro ⟨-, hnothing⟩
        exact hsome hnothing
      · intro hrefuses
        exact hsome (ofOptions_of_refuses hrefuses).2
    · intro _
      exact ⟨report, hreport, houtput⟩

/-- The narrowest terminal, and a log that says that the project was built and that no test
failed. -/
theorem report_or_nothing_narrow :
    ∃ arguments options states, Options.parse arguments = .ok options ∧ options.width = 40 ∧
      (ofArguments arguments states).exitCode = 0 ∧
      ("\nBUILD TERMINATED SUCCESSFULLY\n" : Text) <:+ (ofArguments arguments states).output ∧
      ¬ options.Refuses (states options.logFile) := by
  let log : List Text := ["MSGBLD0230", "MSGBLD0240", "MSGBLD0250", "MSGBLD0260", "MSGBLD0270",
    "MSGBLD0280", "MSGBLD0290", "NEST Testsuite Summary", "Failed 0 of 42", "MSGBLD0300"]
  let states : Text → PathState := fun _ => .file ((Text.unlines log).map (·.toNat.toUInt8))
  let arguments : List Text := ["--width=40", "log"]
  let options : Options := { logFile := "log", width := 40 }
  have hparse : Options.parse arguments = .ok options := by decide
  have hcode : (ofArguments arguments states).exitCode = 0 := by decide +kernel
  obtain ⟨hcases, hrefuses, -⟩ := report_or_nothing states {} hparse
  refine ⟨arguments, options, states, hparse, rfl, hcode, ?_, ?_⟩
  · rcases hcases with ⟨-, hend⟩ | ⟨hone, -⟩ | ⟨hone, -⟩
    · exact hend
    · cases hcode.symm.trans hone
    · cases hcode.symm.trans hone
  · intro h
    cases hcode.symm.trans (hrefuses.mpr h).1

end Outcome

end BuildSummary
