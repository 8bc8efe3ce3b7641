import BuildSummary.Program
import BuildSummary.Proofs.Evidence
import BuildSummary.Proofs.Parts
import BuildSummary.Proofs.Trimming

/-!
# Blanks at the ends of lines

No reader of a log looks at the blanks at the end of a line: no marker, label or tag ends with one,
and names, messages and counts are taken from words or are trimmed. So a log whose lines end with a
carriage return and a newline tells the same as one whose lines end with a newline.

## Main definitions

* `MalformedCount.trimmed`, `Failure.trimmed`: what went wrong, without the blanks at the end of the
  line that is shown
* `BuildRecord.TellAlike`: two logs that tell the same but for these blanks
* `PaddedLine`: a line and the blanks that follow it
* `Text.crlf`: a text with a carriage return before each newline

## Main results

* `Phase.window?_map_trimEnd`, `Checker.scan_trimEnd`, `TestRun.readLine_trimEnd`: what each reader
  makes of trimmed lines
* `BuildRecord.tellAlike_padded`: blanks after the lines of a log do not matter
-/

namespace BuildSummary

open Text (trimEnd)

variable {phase : Phase} {checker : Checker} {log other : List Text}

/-! ## Phases -/

/-- The window with its lines trimmed. -/
def Window.trimmed (window : Window) : Window :=
  { window with lines := window.lines.map trimEnd }

namespace Phase

/-- Neither marker of the phase ends with a blank. -/
structure IsTrimmed (phase : Phase) : Prop where
  opening : trimEnd phase.opening = phase.opening
  closing : trimEnd phase.closing = phase.closing

theorem isTrimmed_part (part : Part) : part.phase.IsTrimmed := by
  cases part <;> exact ⟨by decide, by decide⟩

theorem IsTrimmed.opens_trimEnd (h : phase.IsTrimmed) (line : Text) :
    phase.opens (trimEnd line) = phase.opens line :=
  Text.occursIn_trimEnd h.opening line

theorem IsTrimmed.closes_trimEnd (h : phase.IsTrimmed) (line : Text) :
    phase.closes (trimEnd line) = phase.closes line :=
  Text.occursIn_trimEnd h.closing line

theorem window?_map_trimEnd (h : phase.IsTrimmed) (log : List Text) :
    phase.window? (log.map trimEnd) = (phase.window? log).map Window.trimmed := by
  unfold window?
  simp only [List.dropWhile_map, List.takeWhile_map, Function.comp_def, h.opens_trimEnd]
  cases log.dropWhile (!phase.opens ·) with
  | nil => rfl
  | cons first rest =>
    simp only [List.map_cons]
    simp only [← List.map_cons, List.takeWhile_map, List.dropWhile_map, List.any_map,
      ← List.map_take, ← List.map_append, List.length_map, Function.comp_def, h.closes_trimEnd,
      Option.map_some, Window.trimmed]

theorem status_map_trimEnd (h : phase.IsTrimmed) (log : List Text) :
    phase.status (log.map trimEnd) = phase.status log := by
  rw [status_eq, status_eq, window?_map_trimEnd h]
  cases phase.window? log <;> rfl

/-- The name of a changed file is a word, and so is not followed by blanks. -/
theorem changedFiles_map_trimEnd (h : phase.IsTrimmed) {item : Text} (hitem : trimEnd item = item)
    (log : List Text) : phase.changedFiles item (log.map trimEnd) = phase.changedFiles item log := by
  have hoccurs (line : Text) : item.occursIn (trimEnd line) = item.occursIn line :=
    Text.occursIn_trimEnd hitem line
  rw [changedFiles_eq, changedFiles_eq]
  simp only [status_map_trimEnd h, List.dropWhile_map, ← List.map_drop, List.takeWhile_map,
    List.filter_map, List.map_map, Function.comp_def, h.opens_trimEnd, h.closes_trimEnd, hoccurs,
    Text.lastWord_trimEnd]

end Phase

/-! ## Checkers -/

/-- Messages are trimmed anyway. -/
theorem Placement.message_trimEnd (rule : Placement) (line : Text) :
    rule.message (trimEnd line) = rule.message line := by
  refine Text.apply_trimEnd (fun line c hc => ?_) line
  have hne {d : Char} (hd : Text.isBlank d = false) : decide (c ≠ d) = true := by
    refine decide_eq_true ?_
    rintro rfl
    rw [hc] at hd
    cases hd
  have hcolon := hne (show Text.isBlank ':' = false by decide)
  have hparenthesis := hne (show Text.isBlank '(' = false by decide)
  cases rule with
  | afterColons =>
    -- the blank comes first in the reversed line, and is no colon
    have htake : (line ++ [c]).reverse.takeWhile (· ≠ ':') =
        c :: line.reverse.takeWhile (· ≠ ':') := by
      rw [List.reverse_append, List.reverse_singleton, List.singleton_append, List.takeWhile_cons,
        if_pos hcolon]
    unfold message
    rw [htake, List.reverse_cons, Text.trim_concat_of_isBlank hc]
  | fromParenthesis =>
    unfold message
    simp only
    rw [List.dropWhile_append]
    cases hdrop : line.dropWhile (· ≠ '(') with
    | nil =>
      rw [List.isEmpty_nil, if_pos rfl, List.dropWhile_cons, if_pos hparenthesis]
      exact Text.trim_concat_of_isBlank hc line
    | cons first rest => exact Text.trim_concat_of_isBlank hc (first :: rest)

namespace Checker

/-- None of what the checker looks for in a line ends with a blank. -/
structure IsTrimmed (checker : Checker) : Prop where
  run : checker.run.IsTrimmed
  item : trimEnd checker.item = checker.item
  noiseInLines : ∀ noise ∈ checker.noiseInLines, trimEnd noise = noise

theorem message?_trimEnd (h : checker.IsTrimmed) (line : Text) :
    checker.message? (trimEnd line) = checker.message? line := by
  have hnoise : checker.noiseInLines.any (Text.occursIn · (trimEnd line)) =
      checker.noiseInLines.any (Text.occursIn · line) := by
    rw [Bool.eq_iff_iff, List.any_eq_true, List.any_eq_true]
    refine exists_congr fun noise => and_congr_right fun hmem => ?_
    rw [Text.occursIn_trimEnd (h.noiseInLines noise hmem)]
  unfold message?
  rw [hnoise, Placement.message_trimEnd]

theorem scan_trimEnd (h : checker.IsTrimmed) (progress : Progress) (line : Text) :
    checker.scan progress (trimEnd line) = checker.scan progress line := by
  unfold scan
  rw [h.run.opens_trimEnd, h.run.closes_trimEnd, Text.occursIn_trimEnd h.item, message?_trimEnd h,
    Text.lastWord_trimEnd]

theorem findings?_map_trimEnd (h : checker.IsTrimmed) (log : List Text) :
    checker.findings? (log.map trimEnd) = checker.findings? log := by
  unfold findings?
  rw [List.foldl_map]
  simp only [scan_trimEnd h]

theorem isTrimmed_of_mem_all (h : checker ∈ all) : checker.IsTrimmed := by
  rcases mem_all_iff.mp h with rfl | rfl | rfl | rfl <;>
    exact ⟨⟨by decide, by decide⟩, by decide, by decide⟩

end Checker

/-! ## The compilation -/

namespace Compilation

/-- A diagnostic belongs to the file before a colon, and no blank at its end comes before that. -/
theorem fileOf_trimEnd {line : Text} (h : ':' ∈ line) : fileOf (trimEnd line) = fileOf line := by
  obtain ⟨file, rest, rfl, hfile⟩ := List.eq_append_cons_of_mem h
  rw [Text.trimEnd_append_cons (by decide), fileOf_append_cons hfile, fileOf_append_cons hfile]

theorem diagnostics_map_trimEnd (severity : Severity) (lines : List Text) :
    diagnostics severity (lines.map trimEnd) = (diagnostics severity lines).map trimEnd := by
  have htag : trimEnd severity.tag = severity.tag := by cases severity <;> decide
  unfold diagnostics
  rw [List.filter_map]
  congr 1
  exact List.filter_congr fun line _ => Text.occursIn_trimEnd htag line

theorem perFile_map_trimEnd (severity : Severity) (lines : List Text) :
    perFile ((diagnostics severity lines).map trimEnd) = perFile (diagnostics severity lines) := by
  unfold perFile
  rw [List.map_map]
  congr 1
  refine List.map_congr_left fun line hline => fileOf_trimEnd ?_
  have htag := Text.occursIn_iff_isInfix.mp (List.mem_filter.mp hline).2
  exact htag.subset (by cases severity <;> decide)

theorem ofLog_map_trimEnd (h : phase.IsTrimmed) (log : List Text) :
    ofLog phase (log.map trimEnd) = ofLog phase log := by
  rw [ofLog_eq, ofLog_eq, Phase.window?_map_trimEnd h]
  cases phase.window? log with
  | none => rfl
  | some window =>
    simp only [Option.map_some, Window.trimmed, diagnostics_map_trimEnd, perFile_map_trimEnd,
      List.length_map, List.isEmpty_map]

end Compilation

/-! ## The tests -/

/-- What went wrong, without the blanks at the end of the line. -/
def MalformedCount.trimmed (e : MalformedCount) : MalformedCount :=
  { e with line := trimEnd e.line }

namespace TestRun

theorem readCount_trimEnd (count : TestCount) (current : Option Nat) (line : Text) (number : Nat) :
    readCount count current (trimEnd line) number =
      (readCount count current line number).mapError MalformedCount.trimmed := by
  have hlabel : trimEnd count.label = count.label := by cases count <;> decide
  have hread : count.read? (trimEnd line) = count.read? line := by
    unfold TestCount.read?
    rw [Text.lastWord_trimEnd, Text.words_trimEnd]
  unfold readCount
  rw [Text.occursIn_trimEnd hlabel, hread]
  split
  · cases count.read? line <;> rfl
  · rfl

theorem readLine_trimEnd (run : TestRun) (numbered : Text × Nat) :
    (run.readLine numbered).mapError MalformedCount.trimmed =
      run.readLine (Prod.map trimEnd id numbered) := by
  unfold readLine
  simp only [mapError_bind, Prod.map, readCount_trimEnd, id]
  rfl

theorem summaryLines_trimmed (window : Window) :
    summaryLines window.trimmed = (summaryLines window).map (Prod.map trimEnd id) := by
  unfold summaryLines Window.trimmed
  simp only [List.zipIdx_map, List.dropWhile_map, Function.comp_def, Prod.map, Text.trim_trimEnd]

theorem ofLog_map_trimEnd (h : phase.IsTrimmed) (log : List Text) :
    ofLog phase (log.map trimEnd) = (ofLog phase log).mapError MalformedCount.trimmed := by
  rw [ofLog_eq, ofLog_eq, Phase.window?_map_trimEnd h]
  cases phase.window? log with
  | none => rfl
  | some window =>
    simp only [Option.map_some, summaryLines_trimmed, mapError_bind,
      mapError_foldlM readLine_trimEnd]
    rfl

end TestRun

/-! ## Reports -/

/-- Why there is no report, without the blanks at the end of the line that is shown. -/
def Failure.trimmed : Failure → Failure
  | malformedCount e => malformedCount e.trimmed
  | e => e

namespace BuildRecord

theorem assemble_map_trimEnd (log : List Text) (tests : TestRun) :
    assemble (log.map trimEnd) tests = assemble log tests := by
  have hstatus (part : Part) : part.phase.status (log.map trimEnd) = part.phase.status log :=
    Phase.status_map_trimEnd (Phase.isTrimmed_part part) log
  have hfindings (checker : Checker) (h : checker ∈ Checker.all) :
      checker.findings? (log.map trimEnd) = checker.findings? log :=
    Checker.findings?_map_trimEnd (Checker.isTrimmed_of_mem_all h) log
  have hchanges : Phase.changes.IsTrimmed := ⟨by decide, by decide⟩
  have hitem : trimEnd changedFileItem = changedFileItem := by decide
  have hchanged := Phase.changedFiles_map_trimEnd hchanges hitem log
  have hcompilation := Compilation.ofLog_map_trimEnd (Phase.isTrimmed_part .compilation) log
  have hupload : (log.map trimEnd).any uploadSkipped.occursIn = log.any uploadSkipped.occursIn := by
    rw [List.any_map]
    congr 1
    ext line
    exact Text.occursIn_trimEnd (by decide) line
  simp only [assemble, BuildRecord.mk.injEq]
  exact ⟨hchanged, hstatus .veraSetup, hstatus .cppcheckSetup, hstatus .clangFormatSetup,
    hfindings .vera (by decide), hfindings .cppcheck (by decide),
    hfindings .clangFormat (by decide), hfindings .pep8 (by decide), hstatus .configuration,
    hcompilation, hstatus .installation, trivial, congrArg Bool.not hupload⟩

theorem ofLog_map_trimEnd (log : List Text) :
    ofLog (log.map trimEnd) = (ofLog log).mapError MalformedCount.trimmed := by
  have htests : TestRun.ofLog .testing (log.map trimEnd) =
      (TestRun.ofLog .testing log).mapError MalformedCount.trimmed :=
    TestRun.ofLog_map_trimEnd (Phase.isTrimmed_part .testing) log
  unfold ofLog
  rw [mapError_bind, ← htests]
  simp only [assemble_map_trimEnd]
  rfl

end BuildRecord

theorem Summary.ofLog_map_trimEnd (style : TableStyle) (policy : Policy) (log : List Text) :
    Summary.ofLog style policy (log.map trimEnd) =
      (Summary.ofLog style policy log).mapError Failure.trimmed := by
  unfold ofLog
  rw [BuildRecord.ofLog_map_trimEnd]
  cases BuildRecord.ofLog log with
  | error e => rfl
  | ok record =>
    change (ofRecord style policy record).mapError .inconsistentFiles =
      ((ofRecord style policy record).mapError .inconsistentFiles).mapError Failure.trimmed
    cases ofRecord style policy record <;> rfl

/-! ## Line endings -/

namespace Text

/-- The text with a carriage return before each newline. -/
def crlf (text : Text) : Text :=
  text.flatMap fun c => if c = '\n' then ['\r', '\n'] else [c]

theorem crlf_of_not_mem {text : Text} (h : '\n' ∉ text) : crlf text = text := by
  induction text with
  | nil => rfl
  | cons c rest ih =>
    rw [List.mem_cons, not_or] at h
    have hrest : crlf (c :: rest) = c :: crlf rest := by
      rw [crlf, List.flatMap_cons, if_neg (Ne.symm h.1)]
      rfl
    rw [hrest, ih h.2]

theorem crlf_append_newline {line : Text} (h : '\n' ∉ line) (rest : Text) :
    crlf (line ++ '\n' :: rest) = (line ++ ['\r']) ++ '\n' :: crlf rest := by
  have hline := crlf_of_not_mem h
  unfold crlf at hline ⊢
  rw [List.flatMap_append, hline, List.flatMap_cons, if_pos rfl]
  simp

theorem dropReturn_of_not_mem {line : Text} (h : '\r' ∉ line) : dropReturn line = line :=
  if_neg fun hlast => h (List.mem_of_getLast? hlast)

/-- **Other line endings**, the same lines. -/
theorem lines_crlf {text : Text} (h : '\r' ∉ text) : lines (crlf text) = lines text := by
  induction text using cut_induction '\n' with
  | last piece hpiece => rw [crlf_of_not_mem hpiece]
  | next piece rest hpiece ih =>
    simp only [List.mem_append, List.mem_cons, not_or] at h
    have hreturn : '\n' ∉ piece ++ ['\r'] := by simp [hpiece]
    have hdrop : dropReturn (piece ++ ['\r']) = piece := by
      rw [dropReturn, List.getLast?_concat, if_pos rfl, List.dropLast_concat]
    rw [crlf_append_newline hpiece, lines_append_newline hreturn, lines_append_newline hpiece, hdrop,
      dropReturn_of_not_mem h.1, ih h.2.2]

end Text

/-! ## Lines and the blanks after them -/

/-- A line of a log and the blanks that follow it, which are no newlines. -/
structure PaddedLine where
  line : Text
  blanks : Text
  line_not_newline : '\n' ∉ line
  blanks_not_newline : '\n' ∉ blanks
  isBlank : ∀ c ∈ blanks, Text.isBlank c = true

namespace PaddedLine

/-- The line with the blanks. -/
def text (padded : PaddedLine) : Text :=
  padded.line ++ padded.blanks

theorem text_not_newline (padded : PaddedLine) : '\n' ∉ padded.text := by
  rw [text, List.mem_append, not_or]
  exact ⟨padded.line_not_newline, padded.blanks_not_newline⟩

theorem trimEnd_text (padded : PaddedLine) : trimEnd padded.text = trimEnd padded.line :=
  Text.trimEnd_append_of_forall padded.blanks padded.isBlank padded.line

end PaddedLine

theorem Text.map_trimEnd_lines_unlines {ls : List Text} (h : ∀ line ∈ ls, '\n' ∉ line) :
    (lines (unlines ls)).map trimEnd = ls.map trimEnd := by
  rw [lines_unlines h, List.map_map]
  exact List.map_congr_left fun line _ => trimEnd_dropReturn line

namespace BuildRecord

/-- The two logs tell the same record and give the same reports, or they give the same error but for
the blanks at the end of the line that it shows. -/
structure TellAlike (log other : List Text) : Prop where
  record : (ofLog log).mapError MalformedCount.trimmed =
    (ofLog other).mapError MalformedCount.trimmed
  summary (style : TableStyle) (policy : Policy) :
    (Summary.ofLog style policy log).mapError Failure.trimmed =
      (Summary.ofLog style policy other).mapError Failure.trimmed

theorem tellAlike_of_map_trimEnd (h : log.map trimEnd = other.map trimEnd) :
    TellAlike log other where
  record := by rw [← ofLog_map_trimEnd, h, ofLog_map_trimEnd]
  summary style policy := by
    rw [← Summary.ofLog_map_trimEnd, h, Summary.ofLog_map_trimEnd]

/-- **Blanks after the lines of a log do not matter**, be the lines given or written out. And a text
without carriage returns has the same lines with a carriage return before each newline. -/
theorem tellAlike_padded (padded : List PaddedLine) :
    TellAlike (Text.lines (Text.unlines (padded.map (·.text)))) (padded.map (·.line)) ∧
      TellAlike (Text.lines (Text.unlines (padded.map (·.text))))
        (Text.lines (Text.unlines (padded.map (·.line)))) ∧
      ∀ text, '\r' ∉ text → Text.lines (Text.crlf text) = Text.lines text := by
  have htext : (Text.lines (Text.unlines (padded.map (·.text)))).map trimEnd =
      (padded.map (·.line)).map trimEnd := by
    rw [Text.map_trimEnd_lines_unlines, List.map_map, List.map_map]
    · exact List.map_congr_left fun line _ => line.trimEnd_text
    · exact List.forall_mem_map.mpr fun line _ => line.text_not_newline
  have hline : (Text.lines (Text.unlines (padded.map (·.line)))).map trimEnd =
      (padded.map (·.line)).map trimEnd :=
    Text.map_trimEnd_lines_unlines (List.forall_mem_map.mpr fun line _ => line.line_not_newline)
  exact ⟨tellAlike_of_map_trimEnd htext, tellAlike_of_map_trimEnd (htext.trans hline.symm),
    fun text => Text.lines_crlf⟩

/-- A count that cannot be read, with blanks after its line; and a text of two lines. -/
theorem tellAlike_padded_malformed :
    ∃ padded : List PaddedLine,
      ofLog (Text.lines (Text.unlines (padded.map (·.text)))) ≠ ofLog (padded.map (·.line)) ∧
        TellAlike (Text.lines (Text.unlines (padded.map (·.text)))) (padded.map (·.line)) ∧
        Text.lines (Text.crlf "MSGBLD0250\nMSGBLD0260") = Text.lines "MSGBLD0250\nMSGBLD0260" := by
  let padded : List PaddedLine :=
    [⟨"MSGBLD0290", "\t\r", by decide, by decide, List.all_eq_true.mp (by decide)⟩,
      ⟨"NEST Testsuite Summary", "\u3000", by decide, by decide, List.all_eq_true.mp (by decide)⟩,
      ⟨"Failed: none", " \u2028\r", by decide, by decide, List.all_eq_true.mp (by decide)⟩]
  obtain ⟨hgiven, -, hcrlf⟩ := tellAlike_padded padded
  exact ⟨padded, by decide, hgiven, hcrlf _ (by decide)⟩

end BuildRecord

end BuildSummary
