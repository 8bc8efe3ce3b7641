import BuildSummary.Proofs.PrintedWords
import BuildSummary.Proofs.Provenance
import BuildSummary.Proofs.Telling
import BuildSummary.Proofs.TestSummary

/-!
# Reading undoes printing

The log that the script prints for a build tells of the build, whatever the build is and whatever
the script says after its markers. Each reader finds its own section between lines that carry none
of its markers: it passes over the lines before, reads its own, and stops before the lines after or
finds nothing in them. A compilation that did not end takes the rest of the log, but nothing in
there is a diagnostic.

## Main definitions

* `Section.earlier`, `Section.later`: the sections around a section
* `Section.IsForeign`: lines without a marker of a section

## Main results

* `Build.lines_eq`, `Build.isForeign_flatMap`: the log around a section
* `Extent.status_append`, `Analysis.readRuns_append`, `Making.isToldBy_append`,
  `TestCounts.ofLog_append`: what the readers find in their sections
* `ofLog_lines_print`: reading undoes printing
-/

namespace BuildSummary

variable {s t : Section} {phase : Phase} {line marker label : Text} {before after lines : List Text}

/-! ## The place of a section in the log -/

namespace Section

/-- The sections before a section. -/
def earlier (s : Section) : List Section :=
  all.takeWhile (· ≠ s)

/-- The sections after a section. -/
def later (s : Section) : List Section :=
  (all.dropWhile (· ≠ s)).drop 1

theorem all_eq (s : Section) : all = s.earlier ++ s :: s.later := by
  cases s with
  | part p => cases p <;> decide
  | changes => decide
  | upload => decide

theorem not_mem_earlier (s : Section) : s ∉ s.earlier := by
  intro h
  have hne := List.mem_takeWhile_imp h
  simp at hne

theorem not_mem_later (s : Section) : s ∉ s.later := by
  cases s with
  | part p => cases p <;> decide
  | changes => decide
  | upload => decide

/-- No marker of the section occurs on the lines. -/
def IsForeign (s : Section) (lines : List Text) : Prop :=
  ∀ line ∈ lines, ∀ marker ∈ s.markers, marker.occursIn line = false

end Section

namespace Build

variable (wording : Wording) (build : Build)

/-- The lines of other sections are foreign to a section. -/
theorem isForeign_flatMap {sections : List Section} (h : s ∉ sections) :
    s.IsForeign (sections.flatMap (build.sectionLines wording)) := by
  intro line hline marker hmarker
  obtain ⟨t, ht, hmem⟩ := List.mem_flatMap.mp hline
  have hne : t ≠ s := ne_of_mem_of_not_mem ht h
  exact (build.admits_of_mem_sectionLines wording hmem).occursIn_eq_false hmarker hne

/-- **The log around a section**: its lines stand between lines that are foreign to it. -/
theorem lines_eq (s : Section) :
    build.lines wording = s.earlier.flatMap (build.sectionLines wording) ++
      (build.sectionLines wording s ++ s.later.flatMap (build.sectionLines wording)) := by
  unfold lines
  rw [s.all_eq, List.flatMap_append, List.flatMap_cons]

end Build

theorem Section.IsForeign.append (hbefore : s.IsForeign before) (hafter : s.IsForeign after) :
    s.IsForeign (before ++ after) :=
  List.forall_mem_append.mpr ⟨hbefore, hafter⟩

theorem Section.IsForeign.opens (h : s.IsForeign lines) (hphase : s.Marks phase) :
    ∀ line ∈ lines, phase.opens line = false :=
  fun line hline => h line hline phase.opening hphase.opening

theorem Section.IsForeign.closes (h : s.IsForeign lines) (hphase : s.Marks phase) :
    ∀ line ∈ lines, phase.closes line = false :=
  fun line hline => h line hline phase.closing hphase.closing

/-! ## Phases -/

section Phases

variable (wording : Wording)

theorem Wording.occursIn_line (hmarker : marker ∈ s.markers) (hlabel : label ∈ s.markers) :
    marker.occursIn (wording.line label) = decide (marker = label) :=
  occursIn_labelled (mem_scriptMarkers hmarker) (mem_scriptMarkers hlabel)
    (wording.remark label).unmarked

theorem Wording.opens_line (hphase : s.Marks phase) :
    phase.opens (wording.line phase.opening) = true := by
  rw [Phase.opens, wording.occursIn_line hphase.opening hphase.opening]
  simp

theorem Wording.closes_line (hphase : s.Marks phase) :
    phase.closes (wording.line phase.closing) = true := by
  rw [Phase.closes, wording.occursIn_line hphase.closing hphase.closing]
  simp

theorem Wording.not_closes_line (hphase : s.Marks phase) :
    phase.closes (wording.line phase.opening) = false := by
  rw [Phase.closes, wording.occursIn_line hphase.closing hphase.opening]
  simp [Ne.symm hphase.opening_ne_closing]

/-- A phase begins at its own first line. -/
theorem Section.IsForeign.begins (hbefore : s.IsForeign before) (hphase : s.Marks phase)
    (rest : List Text) : phase.Begins (before ++ wording.line phase.opening :: rest) before
      (wording.line phase.opening :: rest) := by
  refine ⟨rfl, hbefore.opens hphase, wording.line phase.opening, rfl, ?_⟩
  exact wording.opens_line hphase

/-- A phase with a closing line is completed at it, if no line inside closes the phase. -/
theorem Section.IsForeign.completes {inside : List Text} (hbefore : s.IsForeign before)
    (hphase : s.Marks phase) (hinside : ∀ line ∈ inside, phase.closes line = false) :
    phase.Completes
      (before ++ wording.line phase.opening :: (inside ++ wording.line phase.closing :: after))
      (wording.line phase.opening :: (inside ++ [wording.line phase.closing])) := by
  refine ⟨before, wording.line phase.opening :: inside, wording.line phase.closing, after, ?_, rfl,
    ?_, wording.closes_line hphase⟩
  · exact hbefore.begins wording hphase _
  · rw [List.forall_mem_cons]
    exact ⟨wording.not_closes_line hphase, hinside⟩

/-- A phase without a closing line takes the rest of the log. -/
theorem Section.IsForeign.unfinished {inside : List Text} (hbefore : s.IsForeign before)
    (hphase : s.Marks phase) (hinside : ∀ line ∈ inside, phase.closes line = false) :
    phase.Unfinished (before ++ wording.line phase.opening :: inside)
      (wording.line phase.opening :: inside) := by
  refine ⟨before, hbefore.begins wording hphase _, ?_⟩
  rw [List.forall_mem_cons]
  exact ⟨wording.not_closes_line hphase, hinside⟩

/-- **The status of a phase** is read back. -/
theorem Extent.status_append (extent : Extent) (hphase : s.Marks phase)
    (hbefore : s.IsForeign before) (hafter : s.IsForeign after) :
    phase.status (before ++ (extent.lines wording phase ++ after)) = extent.status := by
  cases extent with
  | absent => exact Phase.status_eq_skipped_iff.mpr ((hbefore.append hafter).opens hphase)
  | started => exact (hbefore.unfinished wording hphase (hafter.closes hphase)).status
  | completed =>
    have hinside : ∀ line ∈ ([] : List Text), phase.closes line = false := List.forall_mem_nil _
    exact (hbefore.completes wording hphase hinside).status

/-- **The status of a phase with a section of its own** is read back. -/
theorem Build.status_lines (build : Build) (extent : Extent) (hphase : s.Marks phase)
    (hlines : build.sectionLines wording s = extent.lines wording phase) :
    phase.status (build.lines wording) = extent.status := by
  rw [build.lines_eq wording s, hlines]
  exact extent.status_append wording hphase (build.isForeign_flatMap wording s.not_mem_earlier)
    (build.isForeign_flatMap wording s.not_mem_later)

end Phases

/-! ## Changed files -/

theorem FileName.occursIn_changeLine (file : FileName)
    (hmarker : marker ∈ Section.changes.markers) :
    marker.occursIn file.changeLine = decide (marker = changedFileItem) :=
  occursIn_labelled (mem_scriptMarkers hmarker) (by decide) file.isUnmarked_changed

/-- The lines that list files are items, and none of them ends the list. -/
theorem FileName.item_of_mem_changeLines (files : List FileName) :
    ∀ line ∈ files.map FileName.changeLine,
      changedFileItem.occursIn line = true ∧ Phase.changes.closes line = false := by
  intro line hline
  obtain ⟨file, -, rfl⟩ := List.mem_map.mp hline
  constructor
  · rw [file.occursIn_changeLine (by decide)]
    decide
  · rw [Phase.closes, file.occursIn_changeLine Section.marks_changes.closing]
    decide

/-- **The changed files** are read back. -/
theorem Build.changedFiles_lines (wording : Wording) (build : Build) :
    Phase.changes.changedFiles changedFileItem (build.lines wording) =
      build.changedFiles.map FileName.text := by
  have hphase := Section.marks_changes
  have hitems := FileName.item_of_mem_changeLines build.changedFiles
  have hclosing : changedFileItem.occursIn (wording.line Phase.changes.closing) = false :=
    (wording.occursIn_line (s := .changes) (by decide) (by decide)).trans (by decide)
  have hbefore := build.isForeign_flatMap wording Section.changes.not_mem_earlier
  have hinside := fun line hline => (hitems line hline).2
  have hkeep : ∀ line ∈ build.changedFiles.map FileName.changeLine,
      (changedFileItem.occursIn line || !Phase.changes.closes line) = true := by
    intro line hline
    rw [(hitems line hline).1, Bool.true_or]
  have hfilter : (build.changedFiles.map FileName.changeLine).filter changedFileItem.occursIn =
      build.changedFiles.map FileName.changeLine :=
    List.filter_eq_self.mpr fun line hline => (hitems line hline).1
  -- the phase is cut at its opening; every item is kept, and the closing line ends the list
  rw [build.lines_eq wording .changes, sectionLines, List.cons_append, List.append_assoc,
    List.singleton_append]
  rw [Phase.changedFiles_eq, if_pos (hbefore.completes wording hphase hinside).status,
    (hbefore.begins wording hphase _).dropWhile_eq, List.drop_one, List.tail_cons,
    List.takeWhile_append_of_pos hkeep, List.takeWhile_cons_of_neg, List.append_nil, hfilter,
    List.map_map]
  · exact List.map_congr_left fun file _ => file.lastWord_changeLine
  · simp [hclosing, wording.closes_line hphase]

/-! ## Checkers -/

section Checkers

variable (wording : Wording) {checker : Checker}

theorem Checker.markers_nodup : ∀ checker ∈ Checker.all,
    [checker.run.opening, checker.run.closing, checker.item].Nodup := by
  decide

theorem Section.HasRunsOf.marks (hs : s.HasRunsOf checker) : s.Marks checker.run := by
  have hnodup := Checker.markers_nodup checker hs.mem_all
  constructor
  · simp [hs.markers_eq]
  · simp [hs.markers_eq]
  · rw [List.nodup_cons] at hnodup
    intro heq
    exact hnodup.1 (heq ▸ List.mem_cons_self)

theorem Section.HasRunsOf.item_mem (hs : s.HasRunsOf checker) : checker.item ∈ s.markers := by
  simp [hs.markers_eq]

variable {file : FileName}

theorem Message.item_occursIn_line (hs : s.HasRunsOf checker) (message : Message checker file) :
    checker.item.occursIn message.line = true := by
  have hitem := mem_scriptMarkers hs.item_mem
  have hoccurs := occursIn_labelled hitem hitem (message.isUnmarked_words hs.mem_all)
  exact hoccurs.trans (decide_eq_true rfl)

/-- **The messages of a run** are read back. -/
theorem Message.messagesIn_map_line (hs : s.HasRunsOf checker)
    (messages : List (Message checker file)) :
    checker.messagesIn (messages.map Message.line) = messages.map Message.text := by
  unfold Checker.messagesIn
  rw [List.filter_eq_self.mpr]
  · induction messages with
    | nil => rfl
    | cons message rest ih =>
      rw [List.map_cons, List.map_cons, List.filterMap_cons, message.message?_line hs.mem_all, ih]
  · intro line hline
    obtain ⟨message, -, rfl⟩ := List.mem_map.mp hline
    exact message.item_occursIn_line hs

theorem Analysis.opens_openingLine (hs : s.HasRunsOf checker) (analysis : Analysis checker) :
    checker.run.opens analysis.openingLine = true := by
  have hopening := mem_scriptMarkers hs.marks.opening
  have hoccurs := occursIn_labelled hopening hopening (analysis.isUnmarked_opening hs.mem_all)
  exact hoccurs.trans (decide_eq_true rfl)

theorem Analysis.endsRun_closingLine (hs : s.HasRunsOf checker) (analysis : Analysis checker) :
    checker.endsRun (analysis.closingLine wording) = true := by
  have hclosing := mem_scriptMarkers hs.marks.closing
  have hoccurs {marker : Text} (hmarker : marker ∈ scriptMarkers) :
      marker.occursIn (analysis.closingLine wording) = decide (marker = checker.run.closing) :=
    occursIn_labelled hmarker hclosing (wording.runEnd checker analysis.file).unmarked
  have hne : checker.item ≠ checker.run.closing := by
    have hnodup := Checker.markers_nodup checker hs.mem_all
    simp only [List.nodup_cons, List.mem_cons, List.not_mem_nil, or_false] at hnodup
    exact Ne.symm hnodup.2.1
  unfold Checker.endsRun Phase.closes
  rw [hoccurs (mem_scriptMarkers hs.item_mem), hoccurs hclosing]
  simp [hne]

/-- **The runs of a checker** are cut out of the log one by one. -/
theorem Analysis.readRuns_append (hs : s.HasRunsOf checker) (analyses : List (Analysis checker))
    (hafter : s.IsForeign after) :
    checker.readRuns (analyses.flatMap (Analysis.lines wording) ++ after) =
      analyses.map Analysis.run := by
  unfold Checker.readRuns
  induction analyses with
  | nil =>
    have hnone : checker.runs (after ++ []) = checker.runs [] :=
      Checker.runs_append_of_not_opens (hafter.opens hs.marks)
    rw [List.append_nil] at hnone
    rw [List.flatMap_nil, List.nil_append, hnone, Checker.runs]
    rfl
  | cons analysis rest ih =>
    have hinside : ∀ line ∈ analysis.messages.map Message.line, checker.endsRun line = false := by
      intro line hline
      obtain ⟨message, -, rfl⟩ := List.mem_map.mp hline
      simp [Checker.endsRun, message.item_occursIn_line hs]
    -- the run is closed by its own last line, and the induction goes on after it
    rw [List.flatMap_cons, Analysis.lines, List.cons_append, List.cons_append, List.append_assoc,
      List.append_assoc, List.singleton_append,
      Checker.runs_cons_append (analysis.opens_openingLine hs) hinside
        (analysis.endsRun_closingLine wording hs), List.map_cons, List.map_cons, ih]
    simp [Checker.readRun, Analysis.run, analysis.lastWord_openingLine,
      Message.messagesIn_map_line hs]

/-- **The findings of a checker** are those of its runs. -/
theorem Build.areToldBy_findings? (build : Build) (hs : s.HasRunsOf checker)
    {analyses : List (Analysis checker)}
    (hlines : build.sectionLines wording s = analyses.flatMap (Analysis.lines wording)) :
    Analysis.AreToldBy analyses (checker.findings? (build.lines wording)) := by
  have hbefore := build.isForeign_flatMap wording s.not_mem_earlier
  have hafter := build.isForeign_flatMap wording s.not_mem_later
  have hruns : checker.readRuns (build.lines wording) = analyses.map Analysis.run := by
    rw [build.lines_eq wording s, hlines, Checker.readRuns,
      Checker.runs_append_of_not_opens (hbefore.opens hs.marks)]
    exact Analysis.readRuns_append wording hs analyses hafter
  have hnil : checker.runs (build.lines wording) = [] ↔ analyses = [] := by
    rw [← List.map_eq_nil_iff (f := checker.readRun), ← Checker.readRuns, hruns,
      List.map_eq_nil_iff]
  -- a checker has no findings at all only if it was not run
  by_cases h : analyses = []
  · rw [Checker.findings?_eq, if_pos (hnil.mpr h)]
    exact h
  · have hfindings : checker.findings? (build.lines wording) =
        some (Findings.ofRuns (analyses.map Analysis.run)) := by
      rw [Checker.findings?_eq, if_neg (mt hnil.mp h), hruns]
    obtain ⟨history, hhistory, -⟩ := Checker.exists_history_of_findings? hfindings
    rw [hfindings]
    refine ⟨h, fun file => ?_, Findings.count_ofRuns_eq _, ?_⟩
    · rw [Findings.contains_ofRuns]
      simp [Analysis.run]
    · rw [hhistory]
      exact Findings.isPositive_ofHistory history

end Checkers

/-! ## The compilation -/

section Compilations

variable (wording : Wording) (making : Making)

section Counts

variable {first : Text} {rest : List Text}

/-- Among lines that begin and end with others, only those of the diagnostics count. -/
theorem Making.countP_lines {p : Text → Bool} (hfirst : p first = false)
    (hrest : ∀ line ∈ rest, p line = false) :
    (first :: (making.diagnostics.map Diagnostic.line ++ rest)).countP p =
      making.diagnostics.countP (p ∘ Diagnostic.line) := by
  have hnone : rest.countP p = 0 := by
    rw [List.countP_eq_zero]
    simpa using hrest
  rw [List.countP_cons_of_neg (by simp [hfirst]), List.countP_append, hnone, Nat.add_zero,
    List.countP_map]

theorem Making.countOn_lines {severity : Severity} (hfirst : severity.tag.occursIn first = false)
    (hrest : ∀ line ∈ rest, severity.tag.occursIn line = false) :
    severity.countOn (first :: (making.diagnostics.map Diagnostic.line ++ rest)) =
      making.count severity := by
  unfold Severity.countOn
  rw [making.countP_lines hfirst hrest]
  refine List.countP_congr fun diagnostic _ => ?_
  rw [Function.comp_apply, diagnostic.tag_occursIn_line, decide_eq_true_iff, decide_eq_true_iff,
    eq_comm]

theorem Making.countIn_lines {severity : Severity} (hfirst : severity.tag.occursIn first = false)
    (hrest : ∀ line ∈ rest, severity.tag.occursIn line = false) (file : Text) :
    severity.countIn file (first :: (making.diagnostics.map Diagnostic.line ++ rest)) =
      making.countIn severity file := by
  -- a line without the tag is in no file, whatever stands before its first colon
  have hnot {line : Text} (h : severity.tag.occursIn line = false) :
      decide (severity.IsIn file line) = false := by
    refine decide_eq_false fun hisIn => ?_
    rw [hisIn.1] at h
    cases h
  unfold Severity.countIn
  rw [making.countP_lines (hnot hfirst) fun line hline => hnot (hrest line hline)]
  refine List.countP_congr fun diagnostic _ => ?_
  rw [Function.comp_apply, decide_eq_true_iff, decide_eq_true_iff, Severity.isIn_iff,
    diagnostic.tag_occursIn_line, decide_eq_true_iff, diagnostic.fileOf_line,
    eq_comm (a := severity)]

variable {making} {compilation : Compilation} {log : List Text}

/-- A compilation that counts the diagnostics on some lines tells those that were printed there. -/
theorem Making.isToldBy_of_counts (h : compilation.Counts phase log lines)
    (hcompletes : phase.Completes log lines ↔ making.isCompleted = true)
    (hon : ∀ severity : Severity, severity.countOn lines = making.count severity)
    (hin : ∀ (severity : Severity) file,
      severity.countIn file lines = making.countIn severity file) :
    making.IsToldBy compilation := by
  constructor
  · have herrors : (∀ line ∈ lines, Severity.error.tag.occursIn line = false) ↔
        making.count .error = 0 := by
      rw [← hon, Severity.countOn, List.countP_eq_zero]
      simp only [Bool.not_eq_true]
    have hpassed := h.passed_iff
    rw [hcompletes, herrors] at hpassed
    -- the phase has begun, so a compilation that did not pass failed
    by_cases hsuccess : making.isCompleted = true ∧ making.count .error = 0
    · rw [if_pos hsuccess]
      exact hpassed.mpr hsuccess
    · rw [if_neg hsuccess]
      exact Status.eq_failed h.begun (mt hpassed.mp hsuccess)
  · intro severity
    rw [h.count_eq, hon]
  · intro severity
    obtain ⟨files, hfiles, hget, -⟩ := h.files_eq severity
    exact ⟨files, hfiles, fun file => by rw [hget, hin]⟩

end Counts

/-- No line of a diagnostic ends the compilation. -/
theorem Making.not_closes_diagnostics : ∀ line ∈ making.diagnostics.map Diagnostic.line,
    Phase.compilation.closes line = false := by
  intro line hline
  obtain ⟨diagnostic, -, rfl⟩ := List.mem_map.mp hline
  have hclosing := (Section.marks_phase .compilation).closing
  exact diagnostic.isUnmarked_line Phase.compilation.closing (mem_scriptMarkers hclosing)

/-- **What became of a compilation** is read back, if no later line is a diagnostic. -/
theorem Making.isToldBy_append (hbefore : (Section.part .compilation).IsForeign before)
    (hafter : (Section.part .compilation).IsForeign after)
    (hrest : ∀ line ∈ after, ∀ severity : Severity, severity.tag.occursIn line = false) :
    making.IsToldBy
      (Compilation.ofLog .compilation (before ++ (making.lines wording ++ after))) := by
  have hphase : (Section.part .compilation).Marks .compilation := Section.marks_phase .compilation
  have hopening (severity : Severity) :=
    wording.tag_occursIn_line severity (by decide) hphase.opening
  have hclosing (severity : Severity) : ∀ line ∈ [wording.line Phase.compilation.closing],
      severity.tag.occursIn line = false :=
    List.forall_mem_singleton.mpr (wording.tag_occursIn_line severity (by decide) hphase.closing)
  have hinside := making.not_closes_diagnostics
  unfold Making.lines
  cases hcompleted : making.isCompleted with
  -- the compilation takes the lines up to its closing line
  | true =>
    rw [if_pos rfl, List.cons_append, List.append_assoc, List.singleton_append]
    have hcompletes : Phase.compilation.Completes
        (before ++ wording.line Phase.compilation.opening ::
          (making.diagnostics.map Diagnostic.line ++
            wording.line Phase.compilation.closing :: after))
        _ := hbefore.completes wording hphase hinside
    exact Making.isToldBy_of_counts (Compilation.counts_ofLog (.inl hcompletes))
      (iff_of_true hcompletes hcompleted)
      (fun severity => making.countOn_lines (hopening severity) (hclosing severity))
      (fun severity => making.countIn_lines (hopening severity) (hclosing severity))
  -- the compilation takes the rest of the log
  | false =>
    rw [if_neg (by simp), List.append_nil, List.cons_append]
    have hnone : ∀ line ∈ making.diagnostics.map Diagnostic.line ++ after,
        Phase.compilation.closes line = false := by
      rw [List.forall_mem_append]
      exact ⟨hinside, hafter.closes hphase⟩
    have hunfinished := hbefore.unfinished wording hphase hnone
    have hrest (severity : Severity) : ∀ line ∈ after, severity.tag.occursIn line = false :=
      fun line hline => hrest line hline severity
    exact Making.isToldBy_of_counts (Compilation.counts_ofLog (.inr hunfinished))
      (iff_of_false hunfinished.not_completes (by simp [hcompleted]))
      (fun severity => making.countOn_lines (hopening severity) (hrest severity))
      (fun severity => making.countIn_lines (hopening severity) (hrest severity))

/-- No line after the compilation is a diagnostic. -/
theorem Build.tag_occursIn_later (build : Build) :
    ∀ line ∈ (Section.part .compilation).later.flatMap (build.sectionLines wording),
      ∀ severity : Severity, severity.tag.occursIn line = false := by
  have hinstallation := Section.marks_phase .installation
  have htesting := Section.marks_phase .testing
  have hlater : (Section.part .compilation).later =
      [.part .installation, .part .testing, .upload] := by decide
  intro line hline severity
  -- installation, tests, upload
  simp only [hlater, List.flatMap_cons, List.flatMap_nil, List.append_nil, List.mem_append,
    sectionLines] at hline
  rcases hline with hline | hline | hline
  · cases hextent : build.installation <;>
      simp only [hextent, Extent.lines, List.mem_cons, List.not_mem_nil, or_false] at hline
    · subst hline
      exact wording.tag_occursIn_line severity (by decide) hinstallation.opening
    · rcases hline with rfl | rfl
      · exact wording.tag_occursIn_line severity (by decide) hinstallation.opening
      · exact wording.tag_occursIn_line severity (by decide) hinstallation.closing
  · obtain ⟨counts, -, hmem⟩ := List.mem_flatMap.mp hline
    simp only [TestCounts.lines, List.mem_cons, List.not_mem_nil, or_false] at hmem
    rcases hmem with rfl | rfl | rfl | rfl | rfl
    · exact wording.tag_occursIn_line severity (by decide) htesting.opening
    · cases severity <;> decide
    · exact counts.tag_occursIn_line severity .total
    · exact counts.tag_occursIn_line severity .failed
    · exact wording.tag_occursIn_line severity (by decide) htesting.closing
  · split at hline
    · cases hline
    · obtain rfl := List.mem_singleton.mp hline
      have hupload : uploadSkipped ∈ Section.upload.markers := List.mem_singleton_self _
      exact wording.tag_occursIn_line severity (by decide) hupload

/-- A compilation that never began is not told of. -/
theorem Build.compilation_lines_of_none (build : Build) (h : build.compilation = none) :
    Compilation.ofLog .compilation (build.lines wording) = {} := by
  have hbefore := build.isForeign_flatMap wording (Section.part .compilation).not_mem_earlier
  have hafter := build.isForeign_flatMap wording (Section.part .compilation).not_mem_later
  have hnever := (hbefore.append hafter).opens (Section.marks_phase .compilation)
  rw [build.lines_eq wording (.part .compilation), sectionLines, h, Option.toList_none,
    List.flatMap_nil, List.nil_append]
  exact (Compilation.isCountOf_ofLog _ _).skipped hnever

/-- **What became of the compilation** of a build is read back. -/
theorem Build.isToldBy_compilation (build : Build) (h : build.compilation = some making) :
    making.IsToldBy (Compilation.ofLog .compilation (build.lines wording)) := by
  have hbefore := build.isForeign_flatMap wording (Section.part .compilation).not_mem_earlier
  have hafter := build.isForeign_flatMap wording (Section.part .compilation).not_mem_later
  rw [build.lines_eq wording (.part .compilation), sectionLines, h, Option.toList_some,
    List.flatMap_singleton]
  exact making.isToldBy_append wording hbefore hafter (build.tag_occursIn_later wording)

end Compilations

/-! ## The tests -/

section Tests

variable (wording : Wording) (counts : TestCounts)

/-- The summary of the tests begins with the banner. -/
theorem TestCounts.summary_lines : TestRun.summary (counts.lines wording) =
    [TestRun.banner, counts.line .total, counts.line .failed,
      wording.line Phase.testing.closing] := by
  -- the first line begins with the letter of a marker, so it is not the banner
  have hopening : Text.trim (wording.line Phase.testing.opening) ≠ TestRun.banner := by
    have hhead : (Text.trim (wording.line Phase.testing.opening)).head? = some 'M' :=
      Text.head?_trim_cons (by decide) _
    intro heq
    rw [heq] at hhead
    cases hhead
  unfold TestRun.summary TestCounts.lines
  rw [List.dropWhile_cons_of_pos (by simpa using hopening),
    List.dropWhile_cons_of_neg (by decide)]

/-- No line of a summary tells a count that is not there. -/
theorem TestCounts.not_isMalformedOn : ∀ line ∈ TestRun.summary (counts.lines wording),
    ∀ count : TestCount, ¬ count.IsMalformedOn line := by
  intro line hline count hmalformed
  rw [counts.summary_lines wording] at hline
  obtain ⟨hlabel, hread⟩ := hmalformed
  -- a line of a count carries no label but its own, and that count can be read
  have hcounts (count' : TestCount) (heq : line = counts.line count') : False := by
    rw [heq, counts.label_occursIn_line, decide_eq_true_eq] at hlabel
    rw [heq, ← hlabel, counts.read?_line] at hread
    cases hread
  simp only [List.mem_cons, List.not_mem_nil, or_false] at hline
  rcases hline with rfl | heq | heq | rfl
  · revert hlabel
    cases count <;> decide
  · exact hcounts .total heq
  · exact hcounts .failed heq
  · rw [TestCounts.label_occursIn_closing] at hlabel
    cases hlabel

/-- The counts of a summary are those that were printed. -/
theorem TestCounts.latest_summary (count : TestCount) :
    count.latest none (TestRun.summary (counts.lines wording)) = some (counts.value count) := by
  have hbanner : count.label.occursIn TestRun.banner = false := by
    cases count <;> decide
  have hclosing := TestCounts.label_occursIn_closing wording count
  rw [counts.summary_lines wording]
  unfold TestCount.latest
  cases count <;>
    simp [TestCount.update, hbanner, hclosing, counts.label_occursIn_line, counts.read?_line]

/-- **What became of the tests** is read back. -/
theorem TestCounts.ofLog_append (hbefore : (Section.part .testing).IsForeign before) :
    TestRun.ofLog .testing (before ++ (counts.lines wording ++ after)) = .ok counts.testRun := by
  have hphase : (Section.part .testing).Marks .testing := Section.marks_phase .testing
  have hinside : ∀ line ∈ [TestRun.banner, counts.line .total, counts.line .failed],
      Phase.testing.closes line = false := by
    have hcount (count : TestCount) : Phase.testing.closes (counts.line count) = false :=
      counts.isUnmarked_line count Phase.testing.closing (mem_scriptMarkers hphase.closing)
    simp only [List.forall_mem_cons]
    exact ⟨by decide, hcount .total, hcount .failed, List.forall_mem_nil _⟩
  have hcompletes : Phase.testing.Completes (before ++ (counts.lines wording ++ after))
      (counts.lines wording) := hbefore.completes wording hphase hinside
  obtain ⟨offset, hwindow⟩ := hcompletes.window?
  rw [TestRun.ofLog_eq_ok_iff hwindow]
  refine ⟨counts.not_isMalformedOn wording, ?_⟩
  simp [counts.latest_summary wording, TestCounts.testRun, Status.ofSuccess]

theorem Build.tests_lines (build : Build) :
    TestRun.ofLog .testing (build.lines wording) =
      .ok ((build.tests.map TestCounts.testRun).getD {}) := by
  have hbefore := build.isForeign_flatMap wording (Section.part .testing).not_mem_earlier
  have hafter := build.isForeign_flatMap wording (Section.part .testing).not_mem_later
  rw [build.lines_eq wording (.part .testing), sectionLines]
  cases build.tests with
  | none =>
    have hnever : ∀ line ∈ _, Phase.testing.opens line = false :=
      (hbefore.append hafter).opens (Section.marks_phase .testing)
    rw [Option.toList_none, List.flatMap_nil, List.nil_append, TestRun.ofLog_eq,
      Phase.window?_eq_none_iff.mpr hnever]
    rfl
  | some counts =>
    rw [Option.toList_some, List.flatMap_singleton]
    exact counts.ofLog_append wording hbefore

end Tests

/-! ## The whole log -/

variable (wording : Wording) (build : Build)

theorem Build.any_uploadSkipped_lines :
    (build.lines wording).any uploadSkipped.occursIn = !build.isUploaded := by
  -- the marker stands in the last section or nowhere
  have hforeign {sections : List Section} (h : Section.upload ∉ sections) :
      (sections.flatMap (build.sectionLines wording)).any uploadSkipped.occursIn = false := by
    rw [List.any_eq_false]
    intro line hline
    rw [build.isForeign_flatMap wording h line hline uploadSkipped (by decide)]
    simp
  have hline : uploadSkipped.occursIn (wording.line uploadSkipped) = true :=
    (wording.occursIn_line (s := .upload) (by decide) (by decide)).trans (by decide)
  rw [build.lines_eq wording .upload, List.any_append, List.any_append,
    hforeign Section.upload.not_mem_earlier, hforeign Section.upload.not_mem_later, sectionLines]
  cases build.isUploaded <;> simp [hline]

/-- The lines of a log are lines as they stand. -/
theorem Build.isLine_of_mem_lines : ∀ line ∈ build.lines wording, line.IsLine := by
  intro line hline
  obtain ⟨s, -, hmem⟩ := List.mem_flatMap.mp hline
  exact (build.admits_of_mem_sectionLines wording hmem).isLine

/-- The lines of a log tell of its build. -/
theorem Build.ofLog_lines :
    ∃ record, BuildRecord.ofLog (build.lines wording) = .ok record ∧ build.IsToldBy record := by
  have hstatus (p : Part) (extent : Extent)
      (hlines : build.sectionLines wording (.part p) = extent.lines wording p.phase) :
      p.phase.status (build.lines wording) = extent.status :=
    build.status_lines wording extent (Section.marks_phase p) hlines
  refine ⟨_, BuildRecord.ofLog_eq_ok_iff.mpr ⟨_, build.tests_lines wording, rfl⟩, ?_⟩
  -- part by part, each reader finds what was printed
  exact {
    changedFiles := build.changedFiles_lines wording
    veraSetup := hstatus .veraSetup build.veraSetup rfl
    cppcheckSetup := hstatus .cppcheckSetup build.cppcheckSetup rfl
    clangFormatSetup := hstatus .clangFormatSetup build.clangFormatSetup rfl
    vera := build.areToldBy_findings? wording (s := .part .vera) ⟨by decide, rfl⟩ rfl
    cppcheck := build.areToldBy_findings? wording (s := .part .cppcheck) ⟨by decide, rfl⟩ rfl
    clangFormat := build.areToldBy_findings? wording (s := .part .clangFormat) ⟨by decide, rfl⟩ rfl
    pep8 := build.areToldBy_findings? wording (s := .part .pep8) ⟨by decide, rfl⟩ rfl
    configuration := hstatus .configuration build.configuration rfl
    compilation := fun making hmaking => build.isToldBy_compilation wording making hmaking
    compilation_eq := build.compilation_lines_of_none wording
    installation := hstatus .installation build.installation rfl
    tests := rfl
    isUploaded := by
      show (!(build.lines wording).any uploadSkipped.occursIn) = build.isUploaded
      rw [build.any_uploadSkipped_lines wording, Bool.not_not] }

/-- **Reading undoes printing**: the log that the script prints for a build can be read, and what is
read of it is the one record that tells of the build. -/
theorem ofLog_lines_print :
    ∃ record, BuildRecord.ofLog (Text.lines (build.print wording)) = .ok record ∧
      ∀ other, build.IsToldBy other ↔ other = record := by
  unfold Build.print
  rw [Text.lines_unlines_of_isLine (build.isLine_of_mem_lines wording)]
  obtain ⟨record, hrecord, htold⟩ := build.ofLog_lines wording
  refine ⟨record, hrecord, fun other => ⟨fun hother => hother.unique htold, ?_⟩⟩
  rintro rfl
  exact htold

/-- What the script says of itself. -/
def Remark.done : Remark where
  text := "done"

/-- Words that are always the same. -/
def Wording.terse : Wording where
  remark _ := .done
  runEnd _ _ := .done
  untagged := fun _ _ _ _ severity => by cases severity <;> decide
  unlabelled := fun count => by cases count <;> decide

/-- A file of the build. -/
def FileName.source : FileName where
  text := "a.cpp"

/-- A build in which a checker runs on a file again and says something twice. -/
def Build.rerun : Build where
  veraSetup := .completed
  cppcheckSetup := .started
  clangFormatSetup := .absent
  changedFiles := [.source]
  vera := [
    ⟨.source, [{ lineNumber := 1, text := "tab" }]⟩,
    ⟨.source, [{ lineNumber := 2, text := "blank" }, { lineNumber := 7, text := "blank" }]⟩]
  cppcheck := [⟨.source, [{ lineNumber := 3, text := "(style) x" }]⟩]
  clangFormat := []
  pep8 := []
  configuration := .completed
  compilation := some {
    isCompleted := true
    diagnostics := [
      { severity := .warning, file := "a.cpp", lineNumber := 4, column := 2, text := "unused" },
      { severity := .error, file := "b.h", lineNumber := 5, column := 9, text := "no type" },
      { severity := .warning, file := "a.cpp", lineNumber := 6, column := 1, text := "unused" }] }
  installation := .absent
  tests := some { total := 7, failed := 2 }
  isUploaded := false

/-- What was said in the first run on the file is dropped, and what was said twice counts twice. -/
theorem ofLog_lines_print_rerun :
    Build.rerun.lines .terse = [
      "MSGBLD0010: done", "MSGBLD0020: done", "MSGBLD0030: done",
      "MSGBLD0070: done", "MSGBLD0095: File changed: a.cpp", "MSGBLD0100: done",
      "MSGBLD0130: Running VERA++ for a.cpp", "MSGBLD0135: [VERA++] a.cpp:1: tab",
      "MSGBLD0140: done",
      "MSGBLD0130: Running VERA++ for a.cpp", "MSGBLD0135: [VERA++] a.cpp:2: blank",
      "MSGBLD0135: [VERA++] a.cpp:7: blank", "MSGBLD0140: done",
      "MSGBLD0150: Running Cppcheck for a.cpp", "MSGBLD0155: [CPPCHECK] [a.cpp:3]: (style) x",
      "MSGBLD0160: done",
      "MSGBLD0230: done", "MSGBLD0240: done",
      "MSGBLD0250: done", "a.cpp:4:2: warning: unused", "b.h:5:9: error: no type",
      "a.cpp:6:1: warning: unused", "MSGBLD0260: done",
      "MSGBLD0290: done", "NEST Testsuite Summary", "Total number of tests: 7", "Failed 2 of 7",
      "MSGBLD0300: done",
      "MSGBLD0330: done"] ∧
    ∃ record vera warnings,
      BuildRecord.ofLog (Text.lines (Build.rerun.print .terse)) = .ok record ∧
      record.changedFiles = ["a.cpp"] ∧ record.veraSetup = .passed ∧
      record.cppcheckSetup = .failed ∧ record.clangFormat = none ∧
      record.vera = some vera ∧ vera.count "a.cpp" "tab" = 0 ∧ vera.count "a.cpp" "blank" = 2 ∧
      record.compilation.status = .failed ∧ record.compilation.errorCount = some 1 ∧
      record.compilation.warningCount = some 2 ∧ record.compilation.warnings = some warnings ∧
      warnings.get? "a.cpp" = some 2 ∧ warnings.get? "b.h" = none ∧
      record.tests = { status := .failed, total := some 7, failed := some 2 } ∧
      record.isUploaded = false := by
  obtain ⟨record, hrecord, htold⟩ := ofLog_lines_print .terse .rerun
  have htold : Build.rerun.IsToldBy record := (htold record).mpr rfl
  obtain ⟨vera, hvera, hheld⟩ := (Analysis.areToldBy_iff_of_ne_nil (by decide)).mp htold.vera
  have hcompilation := htold.compilation _ rfl
  obtain ⟨warnings, hwarnings, hget⟩ := hcompilation.files_eq .warning
  refine ⟨by decide +kernel, record, vera, warnings, hrecord, htold.changedFiles, htold.veraSetup,
    htold.cppcheckSetup, Analysis.areToldBy_nil_iff.mp htold.clangFormat, hvera, ?_, ?_,
    hcompilation.status_eq.trans ?_, (hcompilation.count_eq .error).trans ?_,
    (hcompilation.count_eq .warning).trans ?_, hwarnings, (hget _).trans ?_, (hget _).trans ?_,
    htold.tests.trans ?_, htold.isUploaded⟩
  · exact (hheld.count_eq _ _).trans (by decide)
  · exact (hheld.count_eq _ _).trans (by decide)
  all_goals decide

end BuildSummary
