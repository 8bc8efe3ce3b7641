import BuildSummary.Proofs.Reading

/-!
# The diagnostics of a compilation

Diagnostics are counted on all lines that the phase of the compilation takes, those that open and
close it included. A line with the tags of both severities counts in both, and belongs to the file
before its first colon.

## Main definitions

* `Phase.Takes`: the lines of a phase, whether it is closed or not
* `Severity.IsIn`: a line is a diagnostic in a file
* `Severity.countOn`, `Severity.countIn`: how many diagnostics there are on some lines, in all and
  in one file
* `Compilation.IsCountOf`: a compilation tells the numbers of the diagnostics in a log

## Main results

* `Compilation.get?_perFile`: the number of a file
* `Compilation.isCountOf_ofLog`, `Compilation.IsCountOf.unique`: what is read of a log is the only
  count of it
-/

namespace BuildSummary

/-! ## The lines of a phase -/

namespace Phase

variable {phase : Phase} {log lines : List Text}

/-- `lines` are those from the first opening of the phase to the first closing at or after it, or to
the end of the log if there is none. -/
def Takes (phase : Phase) (log lines : List Text) : Prop :=
  phase.Completes log lines ∨ phase.Unfinished log lines

/-- A phase that opens takes some lines. -/
theorem never_or_takes (phase : Phase) (log : List Text) :
    (∀ line ∈ log, phase.opens line = false) ∨ ∃ lines, phase.Takes log lines := by
  rcases phase.never_or_completes_or_unfinished log with hnever | ⟨lines, h⟩ | ⟨lines, h⟩
  · exact .inl hnever
  · exact .inr ⟨lines, .inl h⟩
  · exact .inr ⟨lines, .inr h⟩

theorem Takes.window? (h : phase.Takes log lines) :
    ∃ offset isClosed, phase.window? log = some ⟨offset, lines, isClosed⟩ ∧
      (isClosed = true ↔ phase.Completes log lines) := by
  have hwindow : ∃ offset isClosed, phase.window? log = some ⟨offset, lines, isClosed⟩ := by
    rcases h with h | h
    · obtain ⟨offset, hwindow⟩ := h.window?
      exact ⟨offset, true, hwindow⟩
    · obtain ⟨offset, hwindow⟩ := h.window?
      exact ⟨offset, false, hwindow⟩
  obtain ⟨offset, isClosed, hwindow⟩ := hwindow
  refine ⟨offset, isClosed, hwindow, ?_⟩
  rw [completes_iff, hwindow]
  simp

theorem Takes.status_ne_skipped (h : phase.Takes log lines) : phase.status log ≠ .skipped := by
  rcases h with h | h
  · rw [h.status]
    exact nofun
  · rw [h.status]
    exact nofun

theorem Takes.status_eq_passed_iff (h : phase.Takes log lines) :
    phase.status log = .passed ↔ phase.Completes log lines := by
  constructor
  · intro hpassed
    rcases h with h | h
    · exact h
    · cases hpassed.symm.trans h.status
  · exact Completes.status

end Phase

/-! ## Diagnostics on some lines -/

namespace Severity

/-- The line is a diagnostic of the severity, and its text before the first colon is the file. -/
def IsIn (severity : Severity) (file line : Text) : Prop :=
  severity.tag.occursIn line = true ∧ ':' ∉ file ∧ ∃ rest, line = file ++ ':' :: rest

/-- A diagnostic has a colon, that of its tag at the latest. -/
theorem colon_mem_of_occursIn {severity : Severity} {line : Text}
    (h : severity.tag.occursIn line = true) : ':' ∈ line := by
  have htag : ':' ∈ severity.tag := by cases severity <;> decide
  exact (Text.occursIn_iff_isInfix.mp h).subset htag

theorem isIn_iff {severity : Severity} {file line : Text} :
    severity.IsIn file line ↔
      severity.tag.occursIn line = true ∧ Compilation.fileOf line = file := by
  refine and_congr_right fun htag => ?_
  constructor
  · rintro ⟨hfile, rest, rfl⟩
    exact Compilation.fileOf_append_cons hfile rest
  · rintro rfl
    refine ⟨Compilation.not_colon_fileOf line, ?_⟩
    -- what follows the file begins with the first character that is not in it
    obtain ⟨before, after, hline, hbefore⟩ :=
      List.eq_append_cons_of_mem (colon_mem_of_occursIn htag)
    exact ⟨after, by rw [hline, Compilation.fileOf_append_cons hbefore]⟩

instance (severity : Severity) (file line : Text) : Decidable (severity.IsIn file line) :=
  decidable_of_iff _ isIn_iff.symm

/-- How many of the lines are diagnostics of the severity. -/
def countOn (severity : Severity) (lines : List Text) : Nat :=
  lines.countP severity.tag.occursIn

/-- How many of the lines are diagnostics of the severity in the file. -/
def countIn (severity : Severity) (file : Text) (lines : List Text) : Nat :=
  lines.countP (severity.IsIn file ·)

end Severity

namespace Compilation

variable {compilation other : Compilation} {phase : Phase} {log lines : List Text}

theorem length_diagnostics (severity : Severity) (lines : List Text) :
    (diagnostics severity lines).length = severity.countOn lines :=
  List.countP_eq_length_filter.symm

/-- The diagnostics in a file are those whose text before the first colon is the file. -/
theorem count_fileOf_diagnostics (severity : Severity) (file : Text) (lines : List Text) :
    ((diagnostics severity lines).map fileOf).count file = severity.countIn file lines := by
  rw [List.count_eq_countP, List.countP_map, diagnostics, List.countP_filter, Severity.countIn]
  refine List.countP_congr fun line _ => ?_
  rw [Bool.and_eq_true, decide_eq_true_iff, Severity.isIn_iff, and_comm, Function.comp_apply,
    beq_iff_eq]

/-- **The number of a file** is missing if it would be zero. -/
theorem get?_perFile (severity : Severity) (file : Text) (lines : List Text) :
    (perFile (diagnostics severity lines)).get? file =
      if severity.countIn file lines = 0 then none else some (severity.countIn file lines) := by
  rw [perFile, Index.get?_tally, ← count_fileOf_diagnostics]
  by_cases h : file ∈ (diagnostics severity lines).map fileOf
  · rw [if_pos h, if_neg (List.count_pos_iff.mpr h).ne']
  · rw [if_neg h, if_pos (List.count_eq_zero.mpr h)]

/-! ## A compilation as a count -/

/-- How many diagnostics of the severity there are. -/
def count (compilation : Compilation) : Severity → Option Nat
  | .error => compilation.errorCount
  | .warning => compilation.warningCount

/-- How many diagnostics of the severity each file has. -/
def files (compilation : Compilation) : Severity → Option (Index Nat)
  | .error => compilation.errors
  | .warning => compilation.warnings

/-- The compilation tells how many diagnostics are on the lines that its phase takes. -/
structure Counts (compilation : Compilation) (phase : Phase) (log lines : List Text) : Prop where
  count_eq : ∀ severity, compilation.count severity = some (severity.countOn lines)
  files_eq : ∀ severity, ∃ files, compilation.files severity = some files ∧
    (∀ file, files.get? file =
      if severity.countIn file lines = 0 then none else some (severity.countIn file lines)) ∧
    files.sum = severity.countOn lines
  begun : compilation.status ≠ .skipped
  passed_iff : compilation.status = .passed ↔
    phase.Completes log lines ∧ ∀ line ∈ lines, Severity.error.tag.occursIn line = false

/-- The compilation is skipped if its phase never opens, and else tells how many diagnostics are on
the lines of the phase. -/
structure IsCountOf (compilation : Compilation) (phase : Phase) (log : List Text) : Prop where
  skipped : (∀ line ∈ log, phase.opens line = false) → compilation = {}
  counts : ∀ lines, phase.Takes log lines → compilation.Counts phase log lines

theorem counts_ofLog (h : phase.Takes log lines) :
    (ofLog phase log).Counts phase log lines := by
  obtain ⟨offset, isClosed, hwindow, hclosed⟩ := h.window?
  have hlog : ofLog phase log = {
      status := .ofSuccess (isClosed && (diagnostics .error lines).isEmpty)
      errorCount := some (diagnostics .error lines).length
      errors := some (perFile (diagnostics .error lines))
      warningCount := some (diagnostics .warning lines).length
      warnings := some (perFile (diagnostics .warning lines)) } := by
    rw [ofLog_eq, hwindow]
  rw [hlog]
  constructor
  · intro severity
    rw [← length_diagnostics]
    cases severity <;> rfl
  · intro severity
    refine ⟨perFile (diagnostics severity lines), ?_, fun file => get?_perFile severity file lines,
      (sum_perFile _).trans (length_diagnostics severity lines)⟩
    cases severity <;> rfl
  · exact Status.ofSuccess_ne_skipped _
  · rw [Status.ofSuccess_eq_passed_iff, Bool.and_eq_true, hclosed, List.isEmpty_iff, diagnostics,
      List.filter_eq_nil_iff]
    simp only [Bool.not_eq_true]

/-- What is read of a log counts its diagnostics. -/
theorem isCountOf_ofLog (phase : Phase) (log : List Text) :
    (ofLog phase log).IsCountOf phase log := by
  refine ⟨fun hnever => ?_, fun lines h => counts_ofLog h⟩
  rw [ofLog_eq, Phase.window?_eq_none_iff.mpr hnever]

/-- A compilation passed if and only if its phase was completed without a line that is an error. -/
theorem status_ofLog_eq_passed_iff :
    (ofLog phase log).status = .passed ↔
      ∃ lines, phase.Completes log lines ∧
        ∀ line ∈ lines, Severity.error.tag.occursIn line = false := by
  constructor
  · intro hpassed
    rcases phase.never_or_takes log with hnever | ⟨lines, hlines⟩
    · rw [(isCountOf_ofLog phase log).skipped hnever] at hpassed
      cases hpassed
    · exact ⟨lines, (counts_ofLog hlines).passed_iff.mp hpassed⟩
  · rintro ⟨lines, h, herrors⟩
    exact (counts_ofLog (.inl h)).passed_iff.mpr ⟨h, herrors⟩

/-- A compilation is its status and what it tells of both severities. -/
theorem eq_of_files_eq (hstatus : compilation.status = other.status)
    (hcount : ∀ severity, compilation.count severity = other.count severity)
    (hfiles : ∀ severity, compilation.files severity = other.files severity) :
    compilation = other := by
  obtain ⟨status, errorCount, errors, warningCount, warnings⟩ := compilation
  obtain ⟨status', errorCount', errors', warningCount', warnings'⟩ := other
  obtain rfl : status = status' := hstatus
  obtain rfl : errorCount = errorCount' := hcount .error
  obtain rfl : errors = errors' := hfiles .error
  obtain rfl : warningCount = warningCount' := hcount .warning
  obtain rfl : warnings = warnings' := hfiles .warning
  rfl

theorem Counts.unique (h : compilation.Counts phase log lines)
    (h' : other.Counts phase log lines) : compilation = other := by
  apply eq_of_files_eq
  · have hpassed := h.passed_iff.trans h'.passed_iff.symm
    by_cases hleft : compilation.status = .passed
    · rw [hleft, hpassed.mp hleft]
    · rw [Status.eq_failed h.begun hleft, Status.eq_failed h'.begun (mt hpassed.mpr hleft)]
  · intro severity
    rw [h.count_eq, h'.count_eq]
  · intro severity
    obtain ⟨files, hsome, hget, -⟩ := h.files_eq severity
    obtain ⟨files', hsome', hget', -⟩ := h'.files_eq severity
    rw [hsome, hsome', Index.ext_get? fun file => (hget file).trans (hget' file).symm]

/-- A log has only one count of its diagnostics. -/
theorem IsCountOf.unique (h : compilation.IsCountOf phase log) (h' : other.IsCountOf phase log) :
    compilation = other := by
  rcases phase.never_or_takes log with hnever | ⟨lines, hlines⟩
  · rw [h.skipped hnever, h'.skipped hnever]
  · exact (h.counts lines hlines).unique (h'.counts lines hlines)

/-- **What is read of a compilation** counts the diagnostics on the lines of its phase, and is the
only thing that does. -/
theorem isCountOf_iff_eq_ofLog (phase : Phase) (log : List Text) (compilation : Compilation) :
    compilation.IsCountOf phase log ↔ compilation = ofLog phase log := by
  refine ⟨fun h => h.unique (isCountOf_ofLog phase log), ?_⟩
  rintro rfl
  exact isCountOf_ofLog phase log

/-- The line that opens and closes a phase is counted, for both severities. -/
example :
    (ofLog ⟨"make", "made"⟩ ["a.cpp: error: make: warning: made", "a.cpp: error: late"]).errors =
      some (.tally ["a.cpp"]) := by decide

end Compilation

end BuildSummary
