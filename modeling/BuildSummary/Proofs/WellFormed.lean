import BuildSummary.BuildRecord
import BuildSummary.Proofs.Listing
import BuildSummary.Proofs.Provenance
import BuildSummary.Proofs.TestSummary
import BuildSummary.Proofs.Trimming

/-!
# Well-formed records

What is read from a log fits into the tables of a report: names are words, messages are trimmed
parts of lines, nothing that is listed has the count zero, and a count is missing if and only if its
phase never began.

## Main definitions

* `Checker.IsMessage`: a text that a checker can have told in a log
* `Compilation.WellFormed`, `TestRun.WellFormed`, `BuildRecord.WellFormed`: what is true of all that
  is read

## Main results

* `Checker.message?_eq_some_iff`: which lines hold a message
* `Checker.Tells.isMessage`: what a message that is told looks like
* `BuildRecord.wellFormed_of_ofLog_lines`: every record that is read is well-formed
-/

namespace BuildSummary

variable {phase : Phase} {checker : Checker} {log : List Text} {line message : Text}

/-! ## Names -/

/-- The last word of a line with a marker is a word. -/
theorem Text.isWord_lastWord_of_occursIn {c : Char} {marker : Text} (hc : c ∈ marker)
    (hblank : isBlank c = false) (h : marker.occursIn line = true) : IsWord (lastWord line) :=
  isWord_lastWord ((occursIn_iff_isInfix.mp h).subset hc) hblank

/-- Newlines are blanks. -/
theorem Text.IsWord.not_newline {word : Text} (h : IsWord word) : '\n' ∉ word :=
  fun hmem => absurd (h.not_blank '\n' hmem) (by decide)

/-- The changed files are named on item lines. -/
theorem Phase.isWord_of_mem_changedFiles {c : Char} {item file : Text} (hc : c ∈ item)
    (hblank : Text.isBlank c = false) (h : file ∈ phase.changedFiles item log) :
    Text.IsWord file := by
  rw [changedFiles_eq] at h
  split at h
  · obtain ⟨line, hline, rfl⟩ := List.mem_map.mp h
    exact Text.isWord_lastWord_of_occursIn hc hblank (List.mem_filter.mp hline).2
  · cases h

/-! ## Messages -/

namespace Placement

theorem message_isInfix (rule : Placement) (line : Text) : rule.message line <:+: line := by
  cases rule with
  | afterColons =>
    have h := List.reverse_suffix.mpr (List.takeWhile_prefix (· ≠ ':') (l := line.reverse))
    rw [List.reverse_reverse] at h
    exact (Text.trim_isInfix _).trans h.isInfix
  | fromParenthesis =>
    have h := List.dropWhile_suffix (· ≠ '(') (l := line)
    unfold message
    cases hdrop : line.dropWhile (· ≠ '(') with
    | nil => exact Text.trim_isInfix line
    | cons c rest =>
      rw [hdrop] at h
      exact (Text.trim_isInfix _).trans h.isInfix

theorem trim_message (rule : Placement) (line : Text) :
    Text.trim (rule.message line) = rule.message line := by
  unfold message
  cases rule with
  | afterColons => exact Text.trim_trim _
  | fromParenthesis =>
    simp only
    split <;> exact Text.trim_trim _

theorem not_colon_message (line : Text) : ':' ∉ afterColons.message line := by
  intro hmem
  have htake := (Text.trim_isInfix _).subset hmem
  rw [List.mem_reverse] at htake
  simpa using List.mem_takeWhile_imp htake

theorem parenthesis_message (line : Text) :
    (fromParenthesis.message line).head? = some '(' ∨ '(' ∉ fromParenthesis.message line := by
  unfold message
  cases hdrop : line.dropWhile (· ≠ '(') with
  | nil =>
    refine .inr fun hmem => ?_
    simpa using List.dropWhile_eq_nil_iff.mp hdrop '(' ((Text.trim_isInfix line).subset hmem)
  | cons c rest =>
    have hc := List.head?_dropWhile_not (· ≠ '(') line
    rw [hdrop] at hc
    obtain rfl : c = '(' := by simpa using hc
    exact .inl (Text.head?_trim_cons (by decide) rest)

end Placement

namespace Checker

/-- **Which lines hold a message**: those without noise where the message has none. -/
theorem message?_eq_some_iff : checker.message? line = some message ↔
    (∀ noise ∈ checker.noiseInLines, noise.occursIn line = false) ∧
      checker.placement.message line = message ∧
        ∀ noise ∈ checker.noiseInMessages, noise.occursIn message = false := by
  unfold message?
  simp only [Option.ite_none_left_eq_some, Option.some.injEq, Bool.not_eq_true, List.any_eq_false]
  constructor
  · rintro ⟨hline, hmessage, rfl⟩
    exact ⟨hline, rfl, hmessage⟩
  · rintro ⟨hline, rfl, hmessage⟩
    exact ⟨hline, hmessage, rfl⟩

/-- A text that the checker can have told in a log. -/
structure IsMessage (checker : Checker) (log : List Text) (message : Text) : Prop where
  trim_eq : Text.trim message = message
  /-- It stands on an item line. -/
  isInfix : ∃ line ∈ log, checker.item.occursIn line = true ∧ message <:+: line
  not_colon : checker ≠ .cppcheck → ':' ∉ message
  parenthesis : checker = .cppcheck → message.head? = some '(' ∨ '(' ∉ message
  not_noise : checker = .cppcheck →
    ∀ noise ∈ (["Checking", "is never used", "(information)"] : List Text),
      noise.occursIn message = false

/-- **What a message that is told looks like.** -/
theorem Tells.isMessage (h : checker.Tells log message) (hchecker : checker ∈ all) :
    checker.IsMessage log message := by
  obtain ⟨line, hline, hitem, hmessage⟩ := h
  obtain ⟨hnoiseLine, rfl, hnoise⟩ := message?_eq_some_iff.mp hmessage
  have hinfix := checker.placement.message_isInfix line
  refine ⟨checker.placement.trim_message line, ⟨line, hline, hitem, hinfix⟩, ?_, ?_, ?_⟩
  · intro hne
    rcases mem_all_iff.mp hchecker with rfl | rfl | rfl | rfl
    · exact Placement.not_colon_message line
    · exact absurd rfl hne
    · exact Placement.not_colon_message line
    · exact Placement.not_colon_message line
  · rintro rfl
    exact Placement.parenthesis_message line
  · rintro rfl
    -- what is noise in lines cannot stand in a part of one
    have hchecking : Text.occursIn "Checking" (cppcheck.placement.message line) = false := by
      rw [Bool.eq_false_iff, ne_eq, Text.occursIn_iff_isInfix]
      intro hpart
      have hwhole := Text.occursIn_iff_isInfix.mpr (hpart.trans hinfix)
      rw [hnoiseLine _ List.mem_cons_self] at hwhole
      cases hwhole
    exact List.forall_mem_cons.mpr ⟨hchecking, hnoise⟩

theorem Names.isWord {file : Text} (h : checker.Names log file) (hchecker : checker ∈ all) :
    Text.IsWord file := by
  obtain ⟨line, -, hopens, rfl⟩ := h
  have hmarker : 'M' ∈ checker.run.opening := by
    rcases mem_all_iff.mp hchecker with rfl | rfl | rfl | rfl <;> decide
  exact Text.isWord_lastWord_of_occursIn hmarker (by decide) hopens

end Checker

/-- What is true of all findings of a checker that are read from a log. -/
structure Findings.WellFormed (checker : Checker) (log : List Text) (findings : Findings) :
    Prop where
  files : ∀ file ∈ findings.files, Text.IsWord file
  messages : ∀ file, ∀ entry ∈ findings.messages file, checker.IsMessage log entry.1
  positive : findings.IsPositive

theorem Checker.wellFormed_of_findings? {findings : Findings}
    (h : checker.findings? log = some findings) (hchecker : checker ∈ all) :
    findings.WellFormed checker log := by
  obtain ⟨history, rfl, hhistory⟩ := exists_history_of_findings? h
  refine ⟨fun file hfile => ?_, fun file entry hentry => ?_, Findings.isPositive_ofHistory history⟩
  · obtain ⟨step, hstep, rfl⟩ :=
      Findings.exists_of_contains_ofHistory (Index.mem_keys_iff.mp hfile)
    exact (hhistory step hstep).file.isWord hchecker
  · have hstep := hhistory _ (Findings.occurs_of_mem_messages hentry)
    exact (hstep.message file entry.1 rfl).isMessage hchecker

/-! ## The compilation -/

namespace Compilation

/-- What is true of every compilation that is read from a log. -/
structure WellFormed (log : List Text) (compilation : Compilation) : Prop where
  /-- Nothing is known of a compilation that never began. -/
  absent : compilation.status = .skipped → compilation.errorCount = none ∧
    compilation.errors = none ∧ compilation.warningCount = none ∧ compilation.warnings = none
  present : compilation.status ≠ .skipped → compilation.errorCount.isSome = true ∧
    compilation.errors.isSome = true ∧ compilation.warningCount.isSome = true ∧
    compilation.warnings.isSome = true
  passed : compilation.status = .passed → compilation.errorCount = some 0
  files : ∀ counts, counts ∈ compilation.errors ∨ counts ∈ compilation.warnings →
    ∀ entry ∈ counts.entries, ':' ∉ entry.1 ∧ 0 < entry.2 ∧ ∃ line ∈ log, entry.1 <+: line

/-- The files of diagnostics are named before a colon, and each has a diagnostic. -/
theorem of_mem_perFile {entry : Text × Nat} {diagnostics : List Text}
    (h : entry ∈ (perFile diagnostics).entries) :
    ':' ∉ entry.1 ∧ 0 < entry.2 ∧ ∃ line ∈ diagnostics, entry.1 <+: line := by
  obtain ⟨file, count⟩ := entry
  rw [Index.mem_entries_iff, perFile, Index.get?_tally] at h
  split at h
  · rename_i hmem
    obtain rfl := Option.some.inj h
    obtain ⟨line, hline, rfl⟩ := List.mem_map.mp hmem
    exact ⟨not_colon_fileOf line, List.count_pos_iff.mpr hmem, line, hline,
      List.takeWhile_prefix _⟩
  · cases h

theorem wellFormed_ofLog (phase : Phase) (log : List Text) :
    (ofLog phase log).WellFormed log := by
  rw [ofLog_eq]
  cases hwindow : phase.window? log with
  | none =>
    refine ⟨fun _ => ⟨rfl, rfl, rfl, rfl⟩, fun h => absurd rfl h, nofun, ?_⟩
    rintro counts (h | h) <;> cases h
  | some window =>
    have hfiles (severity : Severity) :
        ∀ entry ∈ (perFile (diagnostics severity window.lines)).entries,
          ':' ∉ entry.1 ∧ 0 < entry.2 ∧ ∃ line ∈ log, entry.1 <+: line := by
      intro entry hentry
      obtain ⟨hcolon, hpos, line, hline, hprefix⟩ := of_mem_perFile hentry
      have hwindowLine := (List.mem_filter.mp hline).1
      exact ⟨hcolon, hpos, line, Phase.mem_of_mem_window? hwindow hwindowLine, hprefix⟩
    refine ⟨fun h => absurd h (Status.ofSuccess_ne_skipped _), fun _ => ⟨rfl, rfl, rfl, rfl⟩, ?_, ?_⟩
    · intro hpassed
      have hempty := (Bool.and_eq_true_iff.mp (Status.ofSuccess_eq_passed_iff.mp hpassed)).2
      exact congrArg (some ·.length) (List.isEmpty_iff.mp hempty)
    · rintro _ (⟨⟨⟩⟩ | ⟨⟨⟩⟩)
      · exact hfiles .error
      · exact hfiles .warning

end Compilation

/-! ## The tests -/

namespace TestRun

/-- What is true of all that is read of the tests. -/
structure WellFormed (run : TestRun) : Prop where
  passed : run.status = .passed → run.failed = some 0
  /-- Nothing is known of tests that never began. -/
  absent : run.status = .skipped → run.total = none ∧ run.failed = none

theorem wellFormed_of_ofLog {run : TestRun} (h : ofLog phase log = .ok run) : run.WellFormed := by
  cases hwindow : phase.window? log with
  | none =>
    rw [ofLog_eq, hwindow] at h
    cases h
    refine ⟨fun hpassed => ?_, fun _ => ⟨rfl, rfl⟩⟩
    cases hpassed
  | some window =>
    obtain ⟨-, rfl⟩ := (ofLog_eq_ok_iff hwindow).mp h
    refine ⟨fun hpassed => ?_, fun h => absurd h (Status.ofSuccess_ne_skipped _)⟩
    exact of_decide_eq_true (Bool.and_eq_true_iff.mp (Status.ofSuccess_eq_passed_iff.mp hpassed)).2

end TestRun

/-! ## The record -/

namespace BuildRecord

variable {record : BuildRecord}

/-- What is true of every record that is read from a log. -/
structure WellFormed (log : List Text) (record : BuildRecord) : Prop where
  changedFiles : ∀ file ∈ record.changedFiles, Text.IsWord file
  findings : ∀ pair ∈ record.checkers, ∀ findings ∈ pair.2, findings.WellFormed pair.1 log
  compilation : record.compilation.WellFormed log
  tests : record.tests.WellFormed

/-- The text is a name or a message of the record. -/
inductive Mentions (record : BuildRecord) : Text → Prop where
  | changedFile {file : Text} (h : file ∈ record.changedFiles) : record.Mentions file
  | analysedFile {pair : Checker × Option Findings} {findings : Findings} {file : Text}
      (hpair : pair ∈ record.checkers) (hfindings : findings ∈ pair.2)
      (h : file ∈ findings.files) : record.Mentions file
  | message {pair : Checker × Option Findings} {findings : Findings} {file : Text}
      {entry : Text × Nat} (hpair : pair ∈ record.checkers) (hfindings : findings ∈ pair.2)
      (h : entry ∈ findings.messages file) : record.Mentions entry.1
  | diagnosedFile {counts : Index Nat} {entry : Text × Nat}
      (hcounts : counts ∈ record.compilation.errors ∨ counts ∈ record.compilation.warnings)
      (h : entry ∈ counts.entries) : record.Mentions entry.1

/-- What a record mentions is a part of a line, or a word. -/
theorem WellFormed.not_newline (h : record.WellFormed log) (hlog : ∀ line ∈ log, '\n' ∉ line)
    {text : Text} (htext : record.Mentions text) : '\n' ∉ text := by
  cases htext with
  | changedFile hfile => exact (h.changedFiles _ hfile).not_newline
  | analysedFile hpair hfindings hfile =>
    exact ((h.findings _ hpair _ hfindings).files _ hfile).not_newline
  | message hpair hfindings hentry =>
    obtain ⟨line, hline, -, hpart⟩ :=
      ((h.findings _ hpair _ hfindings).messages _ _ hentry).isInfix
    exact fun hmem => hlog line hline (hpart.subset hmem)
  | diagnosedFile hcounts hentry =>
    obtain ⟨-, -, line, hline, hpart⟩ := h.compilation.files _ hcounts _ hentry
    exact fun hmem => hlog line hline (hpart.subset hmem)

/-- **Every record that is read is well-formed**, and all that it mentions fits on a line. -/
theorem wellFormed_of_ofLog_lines (text : Text) (h : ofLog (Text.lines text) = .ok record) :
    record.WellFormed (Text.lines text) ∧ ∀ mentioned, record.Mentions mentioned →
      '\n' ∉ mentioned := by
  obtain ⟨tests, htests, rfl⟩ := ofLog_eq_ok_iff.mp h
  have hwellFormed : (assemble (Text.lines text) tests).WellFormed (Text.lines text) := by
    refine ⟨fun file hfile => ?_, fun pair hpair findings hfindings => ?_,
      Compilation.wellFormed_ofLog .compilation _, TestRun.wellFormed_of_ofLog htests⟩
    · have hitem : 'M' ∈ changedFileItem := by decide
      exact Phase.isWord_of_mem_changedFiles hitem (by decide) hfile
    · rw [checkers_assemble] at hpair
      obtain ⟨checker, hall, rfl⟩ := List.mem_map.mp hpair
      exact Checker.wellFormed_of_findings? hfindings hall
  exact ⟨hwellFormed, fun _ =>
    hwellFormed.not_newline fun _ => Text.not_newline_of_mem_lines⟩

/-- A changed file, a message of Cppcheck and a warning. -/
theorem wellFormed_of_ofLog_lines_warned :
    ∃ text record, ofLog (Text.lines text) = .ok record ∧
      record.changedFiles = [("a.cpp" : Text)] ∧ Findings.totalOf record.cppcheck = 1 ∧
      record.compilation.warningCount = some 1 ∧ record.WellFormed (Text.lines text) ∧
      ∀ mentioned, record.Mentions mentioned → '\n' ∉ mentioned := by
  let log : List Text := ["MSGBLD0070", "MSGBLD0095: a.cpp ", "MSGBLD0100", "MSGBLD0150: a.cpp",
    "MSGBLD0155: [a.cpp:1]: (style) x ", "MSGBLD0250", "a.cpp:1:2: warning: x"]
  have hlines : Text.lines (Text.unlines log) = log := Text.lines_unlines_of_isLine (by decide)
  have hlog : ofLog (Text.lines (Text.unlines log)) = .ok (assemble log {}) := by
    rw [hlines]
    exact ofLog_eq_ok_iff.mpr ⟨{}, by decide, rfl⟩
  exact ⟨Text.unlines log, assemble log {}, hlog, by decide, by decide, by decide,
    wellFormed_of_ofLog_lines (Text.unlines log) hlog⟩

end BuildRecord

end BuildSummary
