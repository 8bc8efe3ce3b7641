import BuildSummary.Proofs.Printing

/-!
# What stands on a printed line

A line that the script prints with a marker carries this marker and no other, and all other lines
carry none. So the lines of a section carry the markers of this section only, and no reader finds
anything in the sections of the others.

## Main definitions

* `Section.Admits`: a line that carries no marker of another section

## Main results

* `occursIn_labelled`: which markers a line with a marker carries
* `Build.admits_of_mem_sectionLines`: the lines of a section carry no marker of another one
-/

namespace BuildSummary

variable {marker label a b text : Text} {s t : Section}

/-! ## The markers -/

theorem Section.mem_all (s : Section) : s ∈ Section.all := by
  cases s with
  | part p => cases p <;> decide
  | changes => decide
  | upload => decide

theorem mem_scriptMarkers (h : marker ∈ s.markers) : marker ∈ scriptMarkers :=
  List.mem_flatMap.mpr ⟨s, s.mem_all, h⟩

/-- A marker belongs to one section. -/
theorem Section.eq_of_mem_markers (hs : marker ∈ s.markers) (ht : marker ∈ t.markers) : s = t := by
  -- a finite check: the thirty markers are all different
  have h : ∀ s ∈ all, ∀ t ∈ all, ∀ marker ∈ s.markers, marker ∈ t.markers → s = t := by
    decide +kernel
  exact h s s.mem_all t t.mem_all marker hs ht

namespace Section

/-- The phase is marked by two markers of the section. -/
structure Marks (s : Section) (phase : Phase) : Prop where
  /-- One before the phase. -/
  opening : phase.opening ∈ s.markers
  /-- One after the phase. -/
  closing : phase.closing ∈ s.markers
  /-- They differ. -/
  opening_ne_closing : phase.opening ≠ phase.closing

theorem marks_phase (p : Part) : (part p).Marks p.phase := by
  refine ⟨by simp [markers, Part.markers], by simp [markers, Part.markers], ?_⟩
  cases p <;> decide

theorem marks_changes : changes.Marks .changes :=
  ⟨by decide, by decide, by decide⟩

end Section

/-- How markers look. -/
theorem scriptMarkers_shape : ∀ marker ∈ scriptMarkers,
    marker.length = 10 ∧ marker.head? = some 'M' ∧ marker.all Char.isAlphanum = true := by
  decide +kernel

theorem length_of_mem_scriptMarkers (h : marker ∈ scriptMarkers) : marker.length = 10 :=
  (scriptMarkers_shape marker h).1

theorem exists_eq_cons_of_mem_scriptMarkers (h : marker ∈ scriptMarkers) :
    ∃ rest, marker = 'M' :: rest :=
  List.head?_eq_some_iff.mp (scriptMarkers_shape marker h).2.1

theorem ne_nil_of_mem_scriptMarkers (h : marker ∈ scriptMarkers) : marker ≠ [] := by
  obtain ⟨rest, rfl⟩ := exists_eq_cons_of_mem_scriptMarkers h
  exact List.cons_ne_nil _ _

/-- Only letters and digits stand in a marker. -/
theorem not_mem_marker {c : Char} (hmarker : marker ∈ scriptMarkers) (hc : c.isAlphanum = false) :
    c ∉ marker := by
  intro h
  have hall := List.all_eq_true.mp (scriptMarkers_shape marker hmarker).2.2 c h
  rw [hall] at hc
  cases hc

/-! ## Texts without a marker -/

namespace Text.IsUnmarked

theorem of_not_mem (h : 'M' ∉ text) : text.IsUnmarked := by
  intro marker hmarker
  obtain ⟨rest, rfl⟩ := exists_eq_cons_of_mem_scriptMarkers hmarker
  exact occursIn_eq_false_of_not_mem List.mem_cons_self h

theorem append_of_not_mem (h : 'M' ∉ a) (hb : b.IsUnmarked) : (a ++ b).IsUnmarked := by
  intro marker hmarker
  have hb := hb marker hmarker
  obtain ⟨rest, rfl⟩ := exists_eq_cons_of_mem_scriptMarkers hmarker
  rw [occursIn_append_of_not_mem h, hb]

/-- Texts without a marker have none when a sign stands between them. -/
theorem append_cons {c : Char} (hc : c.isAlphanum = false) (ha : a.IsUnmarked)
    (hb : b.IsUnmarked) : (a ++ c :: b).IsUnmarked := by
  intro marker hmarker
  rw [occursIn_append_cons (ne_nil_of_mem_scriptMarkers hmarker) (not_mem_marker hmarker hc),
    ha marker hmarker, hb marker hmarker]
  rfl

theorem labelled (ha : a.IsUnmarked) (hb : b.IsUnmarked) : (Text.labelled a b).IsUnmarked := by
  have hrest : Text.IsUnmarked (' ' :: b) :=
    append_cons (a := []) (by decide) (of_not_mem (by decide)) hb
  exact append_cons (by decide) ha hrest

theorem place (ha : a.IsUnmarked) (n : Nat) : (a.place n).IsUnmarked :=
  append_cons (by decide) ha (of_not_mem (Text.not_mem_decimal (by decide)))

end Text.IsUnmarked

/-- **A line with a marker** carries this marker and no other. -/
theorem occursIn_labelled (hmarker : marker ∈ scriptMarkers) (hlabel : label ∈ scriptMarkers)
    (htext : text.IsUnmarked) :
    marker.occursIn (label.labelled text) = decide (marker = label) := by
  have hne := ne_nil_of_mem_scriptMarkers hmarker
  have hrest : Text.IsUnmarked (' ' :: text) :=
    .append_cons (a := []) (by decide) (.of_not_mem (by decide)) htext
  have hlength : marker.length = label.length := by
    rw [length_of_mem_scriptMarkers hmarker, length_of_mem_scriptMarkers hlabel]
  unfold Text.labelled
  -- a marker cannot reach over the colon, and in front of it there is room for one marker only
  rw [Text.occursIn_append_cons hne (not_mem_marker hmarker (by decide)), hrest marker hmarker,
    Bool.or_false, Bool.eq_iff_iff, decide_eq_true_eq]
  exact Text.occursIn_iff_eq_of_length_eq hlength

/-! ## Texts that fit on a line -/

namespace Text

theorem isLine_labelled (h : '\n' ∉ label) : (label.labelled text).IsLine ↔ text.IsLine := by
  unfold labelled
  rw [isLine_append_cons (by decide) (by decide), and_iff_right h]
  exact (isLine_append_cons (a := []) (by decide) (by decide)).trans (by simp)

theorem isLine_of_not_blank (h : ∀ c ∈ text, isBlank c = false) : text.IsLine := by
  constructor
  · intro hmem
    cases h '\n' hmem
  · intro hlast
    cases h '\r' (List.mem_of_getLast? hlast)

theorem isLine_of_trimmed (htrim : trim text = text) (h : '\n' ∉ text) : text.IsLine := by
  refine ⟨h, fun hlast => ?_⟩
  rw [← htrim] at hlast
  cases isBlank_of_getLast?_trim hlast

theorem isLine_decimal (n : Nat) : (decimal n).IsLine := by
  refine ⟨not_mem_decimal rfl, fun hlast => ?_⟩
  exact not_mem_decimal rfl (List.mem_of_getLast? hlast)

theorem not_mem_place {c : Char} (hfile : c ∉ a) (hcolon : c ≠ ':') (hdigit : c.isDigit = false)
    (n : Nat) : c ∉ a.place n := by
  simp [place, hfile, hcolon, not_mem_decimal hdigit]

end Text

theorem FileName.isLine (file : FileName) : file.text.IsLine :=
  Text.isLine_of_not_blank file.isWord.not_blank

theorem Message.isLine {checker : Checker} {file : FileName} (message : Message checker file) :
    message.text.IsLine :=
  Text.isLine_of_trimmed message.trimmed message.not_newline

/-! ## Lines without a marker of another section -/

/-- The text is a line that carries no marker but those of the section. -/
structure Section.Admits (s : Section) (line : Text) : Prop where
  /-- It is a line as it stands. -/
  isLine : line.IsLine
  /-- The markers on it are those of the section. -/
  mem_markers : ∀ marker ∈ scriptMarkers, marker.occursIn line = true → marker ∈ s.markers

namespace Section.Admits

theorem of_labelled (hlabel : label ∈ s.markers) (hline : text.IsLine) (htext : text.IsUnmarked) :
    s.Admits (label.labelled text) := by
  have hlabels := mem_scriptMarkers hlabel
  constructor
  · exact (Text.isLine_labelled (not_mem_marker hlabels (by decide))).mpr hline
  · intro marker hmarker hoccurs
    rw [occursIn_labelled hmarker hlabels htext, decide_eq_true_eq] at hoccurs
    exact hoccurs ▸ hlabel

theorem of_isUnmarked (hline : text.IsLine) (htext : text.IsUnmarked) : s.Admits text := by
  refine ⟨hline, fun marker hmarker hoccurs => ?_⟩
  rw [htext marker hmarker] at hoccurs
  cases hoccurs

/-- The markers of the other sections do not occur on the line. -/
theorem occursIn_eq_false (h : s.Admits text) (hmarker : marker ∈ t.markers) (hst : s ≠ t) :
    marker.occursIn text = false := by
  rw [Bool.eq_false_iff]
  intro hoccurs
  have hs := h.mem_markers marker (mem_scriptMarkers hmarker) hoccurs
  exact hst (eq_of_mem_markers hs hmarker)

end Section.Admits

variable (wording : Wording)

theorem Wording.admits_line (h : label ∈ s.markers) : s.Admits (wording.line label) :=
  .of_labelled h (wording.remark label).isLine (wording.remark label).unmarked

theorem Extent.admits {extent : Extent} {phase : Phase} {line : Text} (hphase : s.Marks phase)
    (h : line ∈ extent.lines wording phase) : s.Admits line := by
  have hopen := wording.admits_line hphase.opening
  have hclose := wording.admits_line hphase.closing
  cases extent with
  | absent => cases h
  | started =>
    rw [Extent.lines, List.mem_singleton] at h
    exact h ▸ hopen
  | completed =>
    rw [Extent.lines, List.mem_cons, List.mem_singleton] at h
    rcases h with rfl | rfl
    · exact hopen
    · exact hclose

theorem FileName.isUnmarked_changed (file : FileName) :
    Text.IsUnmarked (("File changed: " : Text) ++ file.text) :=
  .append_of_not_mem (by decide) file.unmarked

theorem FileName.admits_changeLine (file : FileName) (h : changedFileItem ∈ s.markers) :
    s.Admits file.changeLine :=
  .of_labelled h (.append (by decide) file.isLine file.isWord.ne_nil) file.isUnmarked_changed

/-! ### The lines of a checker -/

section Checker

variable {checker : Checker} {file : FileName}

/-- The section is that of the runs of the checker. -/
structure Section.HasRunsOf (s : Section) (checker : Checker) : Prop where
  /-- It is one of the script's checkers. -/
  mem_all : checker ∈ Checker.all
  /-- The markers of the section are those of the checker. -/
  markers_eq : s.markers = [checker.run.opening, checker.run.closing, checker.item]

/-- The script's own words on message lines and before runs hold no marker and no newline. -/
theorem Checker.words_of_mem_all : ∀ checker ∈ Checker.all,
    ('M' ∉ ("[" : Text) ++ checker.name ++ ("] " : Text) ∧
      '\n' ∉ ("[" : Text) ++ checker.name ++ ("] " : Text)) ∧
    'M' ∉ ("Running " : Text) ++ checker.name ++ (" for " : Text) ∧
      '\n' ∉ ("Running " : Text) ++ checker.name ++ (" for " : Text) := by
  decide

theorem Checker.isUnmarked_lead (hchecker : checker ∈ Checker.all) {file : Text}
    (hfile : file.IsUnmarked) (n : Nat) : (checker.lead file n).IsUnmarked := by
  unfold Checker.lead
  split
  · exact .append_of_not_mem (words_of_mem_all checker hchecker).1.1 (hfile.place n)
  · rw [List.append_assoc]
    refine .append_of_not_mem (by decide) ?_
    exact .append_cons (by decide) (hfile.place n) (.of_not_mem (by decide))

theorem Checker.not_newline_lead (hchecker : checker ∈ Checker.all) {file : Text}
    (hfile : '\n' ∉ file) (n : Nat) : '\n' ∉ checker.lead file n := by
  have hplace : '\n' ∉ file.place n := Text.not_mem_place hfile (by decide) (by decide) n
  have hwords := (words_of_mem_all checker hchecker).1.2
  unfold Checker.lead
  split
  · rw [List.mem_append, not_or]
    exact ⟨hwords, hplace⟩
  · rw [List.mem_append, List.mem_append, not_or, not_or]
    exact ⟨⟨by decide, hplace⟩, by decide⟩

theorem Message.isUnmarked_words (hchecker : checker ∈ Checker.all)
    (message : Message checker file) :
    ((checker.lead file.text message.lineNumber).labelled message.text).IsUnmarked :=
  (Checker.isUnmarked_lead hchecker file.unmarked _).labelled message.unmarked

theorem Message.admits_line (hchecker : checker ∈ Checker.all) (h : checker.item ∈ s.markers)
    (message : Message checker file) : s.Admits message.line := by
  refine .of_labelled h ?_ (message.isUnmarked_words hchecker)
  have hlead := Checker.not_newline_lead hchecker file.isLine.1 message.lineNumber
  exact (Text.isLine_labelled hlead).mpr message.isLine

theorem Analysis.isUnmarked_opening (hchecker : checker ∈ Checker.all)
    (analysis : Analysis checker) :
    Text.IsUnmarked
      (("Running " : Text) ++ checker.name ++ (" for " : Text) ++ analysis.file.text) :=
  .append_of_not_mem (Checker.words_of_mem_all checker hchecker).2.1
    analysis.file.unmarked

theorem Analysis.admits (hs : s.HasRunsOf checker) {analysis : Analysis checker} {line : Text}
    (h : line ∈ analysis.lines wording) : s.Admits line := by
  have hwords := (Checker.words_of_mem_all checker hs.mem_all).2.2
  rw [Analysis.lines, List.mem_cons, List.mem_append, List.mem_map, List.mem_singleton] at h
  rcases h with rfl | ⟨message, -, rfl⟩ | rfl
  · exact .of_labelled (by simp [hs.markers_eq])
      (.append hwords analysis.file.isLine analysis.file.isWord.ne_nil)
      (analysis.isUnmarked_opening hs.mem_all)
  · exact message.admits_line hs.mem_all (by simp [hs.markers_eq])
  · exact .of_labelled (by simp [hs.markers_eq]) (wording.runEnd checker analysis.file).isLine
      (wording.runEnd checker analysis.file).unmarked

end Checker

/-! ### Diagnostics and counts -/

/-- The words that the compiler and the test suite print hold no marker and no newline. -/
theorem Severity.not_mem_word (severity : Severity) :
    'M' ∉ severity.word ∧ '\n' ∉ severity.word := by
  cases severity <;> decide

theorem Diagnostic.isUnmarked_line (diagnostic : Diagnostic) : diagnostic.line.IsUnmarked := by
  have hword : diagnostic.severity.word.IsUnmarked :=
    .of_not_mem diagnostic.severity.not_mem_word.1
  exact ((diagnostic.file_unmarked.place _).place _).labelled (hword.labelled diagnostic.unmarked)

theorem Diagnostic.isLine_line (diagnostic : Diagnostic) : diagnostic.line.IsLine := by
  have hword := diagnostic.severity.not_mem_word.2
  have hplace := Text.not_mem_place diagnostic.file_not_newline (by decide) (by decide)
    diagnostic.lineNumber
  unfold Diagnostic.line
  rw [Text.isLine_labelled (Text.not_mem_place hplace (by decide) (by decide) _),
    Text.isLine_labelled hword]
  exact diagnostic.isLine

theorem Making.admits {making : Making} {line : Text} (h : line ∈ making.lines wording) :
    (Section.part .compilation).Admits line := by
  have hphase := Section.marks_phase .compilation
  rw [Making.lines, List.mem_cons, List.mem_append, List.mem_map] at h
  rcases h with rfl | ⟨diagnostic, -, rfl⟩ | h
  · exact wording.admits_line hphase.opening
  · exact .of_isUnmarked diagnostic.isLine_line diagnostic.isUnmarked_line
  · split at h
    · rw [List.mem_singleton] at h
      exact h ▸ wording.admits_line hphase.closing
    · cases h

theorem TestCounts.isUnmarked_line (counts : TestCounts) (count : TestCount) :
    (counts.line count).IsUnmarked := by
  cases count with
  | total =>
    unfold line totalLine
    exact .labelled (.of_not_mem (by decide)) (.of_not_mem (Text.not_mem_decimal rfl))
  | failed =>
    refine .of_not_mem ?_
    unfold line failedLine
    simp [Text.not_mem_decimal]

theorem TestCounts.isLine_line (counts : TestCounts) (count : TestCount) :
    (counts.line count).IsLine := by
  cases count with
  | total =>
    unfold line totalLine
    exact (Text.isLine_labelled (by decide)).mpr (Text.isLine_decimal _)
  | failed =>
    unfold line failedLine
    refine .append ?_ (Text.isLine_decimal _) (Text.decimal_ne_nil _)
    simp [Text.not_mem_decimal]

theorem TestCounts.admits {counts : TestCounts} {line : Text} (h : line ∈ counts.lines wording) :
    (Section.part .testing).Admits line := by
  have hphase := Section.marks_phase .testing
  have hcount (count : TestCount) : (Section.part .testing).Admits (counts.line count) :=
    .of_isUnmarked (counts.isLine_line count) (counts.isUnmarked_line count)
  simp only [lines, List.mem_cons, List.not_mem_nil, or_false] at h
  rcases h with rfl | rfl | rfl | rfl | rfl
  · exact wording.admits_line hphase.opening
  · exact .of_isUnmarked (by decide) (.of_not_mem (by decide))
  · exact hcount .total
  · exact hcount .failed
  · exact wording.admits_line hphase.closing

/-! ### All sections -/

/-- **The lines of a section** carry no marker of another one. -/
theorem Build.admits_of_mem_sectionLines (build : Build) {line : Text}
    (h : line ∈ build.sectionLines wording s) : s.Admits line := by
  have hruns {checker : Checker} {analyses : List (Analysis checker)} {s : Section}
      (hs : s.HasRunsOf checker) (hline : line ∈ analyses.flatMap (Analysis.lines wording)) :
      s.Admits line := by
    obtain ⟨analysis, -, hmem⟩ := List.mem_flatMap.mp hline
    exact Analysis.admits wording hs hmem
  -- one case for each section, and one lemma for each kind of section
  cases s with
  | part p =>
    cases p with
    | veraSetup => exact Extent.admits wording (Section.marks_phase .veraSetup) h
    | cppcheckSetup => exact Extent.admits wording (Section.marks_phase .cppcheckSetup) h
    | clangFormatSetup => exact Extent.admits wording (Section.marks_phase .clangFormatSetup) h
    | vera => exact hruns ⟨by decide, rfl⟩ h
    | cppcheck => exact hruns ⟨by decide, rfl⟩ h
    | clangFormat => exact hruns ⟨by decide, rfl⟩ h
    | pep8 => exact hruns ⟨by decide, rfl⟩ h
    | configuration => exact Extent.admits wording (Section.marks_phase .configuration) h
    | compilation =>
      obtain ⟨making, -, hmem⟩ := List.mem_flatMap.mp h
      exact making.admits wording hmem
    | installation => exact Extent.admits wording (Section.marks_phase .installation) h
    | testing =>
      obtain ⟨counts, -, hmem⟩ := List.mem_flatMap.mp h
      exact counts.admits wording hmem
  | changes =>
    rw [sectionLines, List.mem_cons, List.mem_append, List.mem_map, List.mem_singleton] at h
    rcases h with rfl | ⟨file, -, rfl⟩ | rfl
    · exact wording.admits_line Section.marks_changes.opening
    · exact file.admits_changeLine (by decide)
    · exact wording.admits_line Section.marks_changes.closing
  | upload =>
    rw [sectionLines] at h
    split at h
    · cases h
    · rw [List.mem_singleton] at h
      exact h ▸ wording.admits_line (by decide)

end BuildSummary
