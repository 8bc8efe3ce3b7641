import BuildSummary.Proofs.PrintedLines

/-!
# What readers take from a printed line

The last word of the lines that name a file is the file, the message of a message line is the one
that was printed, a diagnostic carries the tag of its own severity only and belongs to its file, and
the counts of the tests are those that were printed.

## Main results

* `FileName.lastWord_append`: the file on a line that names it
* `Message.message?_line`: the message on a message line
* `Diagnostic.tag_occursIn_line`, `Diagnostic.fileOf_line`: the severity and the file of a
  diagnostic
* `TestCounts.label_occursIn_line`, `TestCounts.read?_line`: the counts of the tests
-/

namespace BuildSummary

/-! ## Files -/

/-- A file that is named at the end of a line is its last word. -/
theorem FileName.lastWord_append (file : FileName) (text : Text) :
    Text.lastWord (text ++ ' ' :: file.text) = file.text :=
  Text.lastWord_append_cons (by decide) text file.isWord.ne_nil file.isWord.not_blank

theorem FileName.lastWord_changeLine (file : FileName) :
    Text.lastWord file.changeLine = file.text := by
  have h : file.changeLine = changedFileItem.labelled "File changed:" ++ ' ' :: file.text := by
    simp [FileName.changeLine, Text.labelled]
  rw [h, file.lastWord_append]

theorem Analysis.lastWord_openingLine {checker : Checker} (analysis : Analysis checker) :
    Text.lastWord analysis.openingLine = analysis.file.text := by
  have h : analysis.openingLine = checker.run.opening.labelled
      (("Running " : Text) ++ checker.name ++ (" for" : Text)) ++ ' ' :: analysis.file.text := by
    simp [Analysis.openingLine, Text.labelled]
  rw [h, analysis.file.lastWord_append]

/-! ## Messages -/

/-- What follows the last colon. -/
theorem Placement.message_afterColons {text : Text} (h : ':' ∉ text) (a : Text) :
    afterColons.message (a ++ ':' :: text) = Text.trim text := by
  have htake : ((a ++ ':' :: text).reverse.takeWhile (· ≠ ':')).reverse = text := by
    rw [List.reverse_append, List.reverse_cons, List.append_assoc,
      List.takeWhile_append_of_pos (by simpa using fun c hc => (ne_of_mem_of_not_mem hc h))]
    simp
  rw [message, htake]

/-- What follows what stands before the first parenthesis. -/
theorem Placement.message_fromParenthesis {a text : Text} (ha : '(' ∉ a)
    (h : text.head? = some '(') : fromParenthesis.message (a ++ text) = Text.trim text := by
  obtain ⟨rest, rfl⟩ := List.head?_eq_some_iff.mp h
  have hdrop : (a ++ '(' :: rest).dropWhile (· ≠ '(') = '(' :: rest := by
    rw [List.dropWhile_append_of_pos (by simpa using fun c hc => (ne_of_mem_of_not_mem hc ha))]
    simp
  rw [message, hdrop]

section Messages

variable {checker : Checker} {file : FileName} (message : Message checker file)

/-- What stands before the message holds a parenthesis only if the file does. -/
theorem Checker.not_parenthesis_lead {file : Text} (hchecker : checker ∈ Checker.all)
    (h : '(' ∉ file) (n : Nat) : '(' ∉ checker.item.labelled (checker.lead file n) := by
  have hitem : ∀ checker ∈ Checker.all, '(' ∉ checker.item ∧ '(' ∉ checker.name := by decide
  have hplace : '(' ∉ file.place n := Text.not_mem_place h (by decide) (by decide) n
  obtain ⟨hitem, hname⟩ := hitem checker hchecker
  unfold Checker.lead Text.labelled
  split <;> simp [hitem, hname, hplace]

/-- **A message** stands on its line where the checker puts its messages. -/
theorem Message.placement_message_line (hchecker : checker ∈ Checker.all) :
    checker.placement.message message.line = message.text := by
  have hseparated := message.separated
  have hline : message.line = (checker.item.labelled (checker.lead file.text message.lineNumber)) ++
      ':' :: ' ' :: message.text := by
    simp [Message.line, Text.labelled]
  rw [hline]
  -- the sign that leads the message is the last colon, or the first parenthesis
  cases hplacement : checker.placement with
  | afterColons =>
    rw [hplacement] at hseparated
    have hcolon : ':' ∉ message.text := hseparated
    have hcolon : ':' ∉ ' ' :: message.text := by simpa using hcolon
    rw [Placement.message_afterColons hcolon, Text.trim_cons_of_isBlank (by decide),
      message.trimmed]
  | fromParenthesis =>
    rw [hplacement] at hseparated
    have hlead : '(' ∉ checker.item.labelled (checker.lead file.text message.lineNumber) ++
        [':', ' '] := by
      simpa using Checker.not_parenthesis_lead hchecker hseparated.1 message.lineNumber
    rw [List.append_cons _ ':', List.append_cons _ ' ', List.append_assoc _ [':']]
    exact (Placement.message_fromParenthesis hlead hseparated.2).trans message.trimmed

/-- The noise of Cppcheck stands between the script's own words only if it is part of the file. -/
theorem Checker.checking_occursIn_lead {file : Text} (h : Text.occursIn "Checking" file = false)
    (n : Nat) : Text.occursIn "Checking" (Checker.cppcheck.lead file n) = false := by
  have hlead : Checker.cppcheck.lead file n =
      ("[CPPCHECK] " : Text) ++ '[' :: (file ++ ':' :: (Text.decimal n ++ [']'])) := by
    change ("[CPPCHECK] [" : Text) ++ file.place n ++ ("]" : Text) = _
    simp [Text.place]
  have hdecimal : 'C' ∉ Text.decimal n ++ [']'] := by simp [Text.not_mem_decimal]
  rw [hlead, Text.occursIn_append_cons (by decide) (by decide),
    Text.occursIn_append_cons (by decide) (by decide), h,
    Text.occursIn_eq_false_of_not_mem (by decide) hdecimal]
  decide

/-- No message line is taken for noise. -/
theorem Message.noise_occursIn_line (hchecker : checker ∈ Checker.all) :
    ∀ noise ∈ checker.noiseInLines, noise.occursIn message.line = false := by
  intro noise hnoise
  have hparts := message.not_noise_line noise hnoise
  -- only Cppcheck has lines that are noise
  rcases Checker.mem_all_iff.mp hchecker with rfl | rfl | rfl | rfl
  · cases hnoise
  · obtain rfl : noise = ("Checking" : Text) := List.mem_singleton.mp hnoise
    unfold Message.line Text.labelled
    have hblank (a b : Text) : Text.occursIn "Checking" (a ++ ':' :: ' ' :: b) =
        (Text.occursIn "Checking" a || Text.occursIn "Checking" b) := by
      rw [List.append_cons, Text.occursIn_append_cons (by decide) (by decide),
        Text.occursIn_append_cons (by decide) (by decide)]
      simp [Text.occursIn]
    rw [hblank, hblank, Checker.checking_occursIn_lead hparts.1, hparts.2]
    decide
  · cases hnoise
  · cases hnoise

/-- **A message is read back** from its line. -/
theorem Message.message?_line (hchecker : checker ∈ Checker.all) :
    checker.message? message.line = some message.text := by
  have hline : checker.noiseInLines.any (Text.occursIn · message.line) = false := by
    simpa using message.noise_occursIn_line hchecker
  have hmessage : checker.noiseInMessages.any (Text.occursIn · message.text) = false := by
    simpa using message.not_noise_message
  unfold Checker.message?
  rw [hline, message.placement_message_line hchecker]
  simp [hmessage]

end Messages

/-! ## Diagnostics -/

section Diagnostics

variable (severity : Severity)

theorem Severity.tag_eq : severity.tag = ':' :: ' ' :: (severity.word ++ [':']) := by
  cases severity <;> rfl

theorem Severity.not_colon_word : ':' ∉ severity.word := by
  cases severity <;> decide

/-- A tag stands nowhere before the first colon. -/
theorem Severity.tag_occursIn_append {a : Text} (h : ':' ∉ a) (b : Text) :
    severity.tag.occursIn (a ++ b) = severity.tag.occursIn b := by
  rw [severity.tag_eq]
  exact Text.occursIn_append_of_not_mem h b

/-- A colon before a number begins no tag. -/
theorem Severity.tag_occursIn_place (n : Nat) (b : Text) :
    severity.tag.occursIn (':' :: (Text.decimal n ++ b)) = severity.tag.occursIn b := by
  have hrest := severity.tag_occursIn_append (Text.not_mem_decimal (n := n) rfl) b
  rw [Text.occursIn, hrest, severity.tag_eq]
  -- in a tag a blank follows the first colon, here a digit does
  obtain ⟨d, ds, hd⟩ := List.exists_cons_of_ne_nil (Text.decimal_ne_nil n)
  have hblank : ' ' ≠ d := by
    rintro rfl
    exact Text.not_mem_decimal rfl (hd ▸ List.mem_cons_self)
  simp [hd, hblank]

theorem Severity.tag_occursIn_labelled {label : Text} (h : ':' ∉ label) (text : Text) :
    severity.tag.occursIn (label.labelled text) = severity.tag.occursIn (':' :: ' ' :: text) :=
  severity.tag_occursIn_append h (':' :: ' ' :: text)

/-- The word of a severity between colons is a tag of that severity only. -/
theorem Severity.tag_occursIn_word (severity' : Severity) (text : Text) :
    severity.tag.occursIn (':' :: ' ' :: severity'.word.labelled text) =
      (decide (severity = severity') || severity.tag.occursIn (':' :: ' ' :: text)) := by
  have hword : ':' ∉ ' ' :: severity'.word := by simp [severity'.not_colon_word]
  have hrest := severity.tag_occursIn_append hword (':' :: ' ' :: text)
  rw [Text.occursIn, Text.labelled, ← List.cons_append, hrest]
  congr 1
  cases severity <;> cases severity' <;> rfl

variable (diagnostic : Diagnostic)

theorem Diagnostic.line_eq : ∃ rest, diagnostic.line = diagnostic.file ++ ':' :: rest ∧
    severity.tag.occursIn (':' :: rest) = severity.tag.occursIn
      (':' :: ' ' :: diagnostic.severity.word.labelled diagnostic.text) := by
  refine ⟨Text.decimal diagnostic.lineNumber ++ (':' :: (Text.decimal diagnostic.column ++
    (':' :: ' ' :: diagnostic.severity.word.labelled diagnostic.text))), ?_, ?_⟩
  · simp [Diagnostic.line, Text.labelled, Text.place]
  · rw [severity.tag_occursIn_place, severity.tag_occursIn_place]

/-- **A diagnostic** carries the tag of its severity and no other. -/
theorem Diagnostic.tag_occursIn_line :
    severity.tag.occursIn diagnostic.line = decide (severity = diagnostic.severity) := by
  obtain ⟨rest, hline, hrest⟩ := diagnostic.line_eq severity
  rw [hline, severity.tag_occursIn_append diagnostic.file_not_colon, hrest,
    severity.tag_occursIn_word]
  by_cases h : severity = diagnostic.severity
  · simp [h]
  · simp [h, diagnostic.untagged severity h]

theorem Diagnostic.fileOf_line : Compilation.fileOf diagnostic.line = diagnostic.file := by
  obtain ⟨rest, hline, -⟩ := diagnostic.line_eq .error
  rw [hline, Compilation.fileOf_append_cons diagnostic.file_not_colon]

/-! ### Lines that are no diagnostics -/

theorem Wording.tag_occursIn_line (wording : Wording) {s : Section} {marker : Text}
    (hs : s ∈ Section.fromCompilation) (hmarker : marker ∈ s.markers) :
    severity.tag.occursIn (wording.line marker) = false := by
  have hcolon : ':' ∉ marker := not_mem_marker (mem_scriptMarkers hmarker) (by decide)
  rw [Wording.line, severity.tag_occursIn_labelled hcolon]
  exact wording.untagged s hs marker hmarker severity

theorem TestCounts.tag_occursIn_line (counts : TestCounts) (count : TestCount) :
    severity.tag.occursIn (counts.line count) = false := by
  cases count with
  | total =>
    have hnumber : 'r' ∉ ':' :: ' ' :: Text.decimal (counts.value .total) := by
      simp [Text.not_mem_decimal]
    unfold line totalLine
    rw [severity.tag_occursIn_labelled (by decide)]
    refine Text.occursIn_eq_false_of_not_mem ?_ hnumber
    cases severity <;> decide
  | failed =>
    have hcolon : ':' ∈ severity.tag := by
      rw [severity.tag_eq]
      exact List.mem_cons_self
    have hline : ':' ∉ counts.failedLine := by
      unfold failedLine
      simp [Text.not_mem_decimal]
    exact Text.occursIn_eq_false_of_not_mem hcolon hline

end Diagnostics

/-! ## Counts -/

namespace TestCounts

variable (counts : TestCounts)

/-- **The line of a count** carries the label of this count only. -/
theorem label_occursIn_line (count count' : TestCount) :
    count.label.occursIn (counts.line count') = decide (count = count') := by
  cases count with
  | total =>
    cases count' with
    | total =>
      have hpart : TestCount.total.label <:+: counts.totalLine :=
        ⟨[], ' ' :: Text.decimal (counts.value .total), rfl⟩
      exact Text.occursIn_iff_isInfix.mpr hpart
    | failed =>
      -- the label begins with a letter that the other line lacks
      have hline : 'T' ∉ counts.failedLine := by
        unfold failedLine
        simp [Text.not_mem_decimal]
      exact Text.occursIn_eq_false_of_not_mem (by decide) hline
  | failed =>
    cases count' with
    | total =>
      have hline : 'F' ∉ counts.totalLine := by
        unfold totalLine
        simp [Text.labelled, Text.not_mem_decimal]
      exact Text.occursIn_eq_false_of_not_mem (by decide) hline
    | failed =>
      have hpart : TestCount.failed.label <:+: counts.failedLine := by
        unfold failedLine
        rw [List.append_assoc, List.append_assoc]
        exact ⟨[], ' ' :: _, rfl⟩
      exact Text.occursIn_iff_isInfix.mpr hpart

/-- The script's own line after the tests tells no count. -/
theorem label_occursIn_closing (wording : Wording) (count : TestCount) :
    count.label.occursIn (wording.line Phase.testing.closing) = false := by
  have hremark := wording.unlabelled count
  have hline : wording.line Phase.testing.closing = ("MSGBLD0300: " : Text) ++
      (wording.remark Phase.testing.closing).text := rfl
  rw [hline]
  cases count with
  | total => exact (Text.occursIn_append_of_not_mem (by decide) _).trans hremark
  | failed => exact (Text.occursIn_append_of_not_mem (by decide) _).trans hremark

theorem value_lt (count : TestCount) : counts.value count < Text.numberBound := by
  cases count with
  | total => exact counts.total.toNat_lt
  | failed => exact counts.failed.toNat_lt

end TestCounts

/-- Digits are not blanks. -/
theorem Text.isBlank_of_isDigit {c : Char} (h : c.isDigit = true) : isBlank c = false := by
  have hle : 48 ≤ c.toNat ∧ c.toNat ≤ 57 := by
    simpa [Char.isDigit, UInt32.le_iff_toNat_le] using h
  simp [isBlank]
  omega

theorem Text.words_decimal (n : Nat) : words (decimal n) = [decimal n] :=
  words_of_not_blank (decimal_ne_nil n) fun _ hc => isBlank_of_isDigit (isDigit_of_mem_decimal hc)

/-- **A count is read back** from its line. -/
theorem TestCounts.read?_line (counts : TestCounts) (count : TestCount) :
    count.read? (counts.line count) = some (counts.value count) := by
  have hdecimal (n : Nat) : ∀ c ∈ Text.decimal n, Text.isBlank c = false :=
    fun c hc => Text.isBlank_of_isDigit (Text.isDigit_of_mem_decimal hc)
  cases count with
  | total =>
    have hline : counts.totalLine =
        ("Total number of tests:" : Text) ++ ' ' :: Text.decimal (counts.value .total) := by
      unfold totalLine
      simp [Text.labelled]
    unfold line TestCount.read?
    rw [hline, Text.lastWord_append_cons (by decide) _ (Text.decimal_ne_nil _) (hdecimal _)]
    exact Text.number?_decimal (counts.value_lt .total)
  | failed =>
    have hline : counts.failedLine = ("Failed" : Text) ++ ' ' ::
        (Text.decimal (counts.value .failed) ++ ' ' ::
          (("of" : Text) ++ ' ' :: Text.decimal (counts.value .total))) := by
      unfold failedLine
      simp
    have hwords : Text.words counts.failedLine = [("Failed" : Text),
        Text.decimal (counts.value .failed), ("of" : Text),
        Text.decimal (counts.value .total)] := by
      -- the number of failed tests is the first word of digits, that of all tests the second
      have hblank : Text.isBlank ' ' = true := by decide
      have hfailed : Text.words "Failed" = [("Failed" : Text)] := by decide
      have hof : Text.words "of" = [("of" : Text)] := by decide
      rw [hline, Text.words_append_blank hblank, Text.words_append_blank hblank,
        Text.words_append_blank hblank, Text.words_decimal, Text.words_decimal, hfailed, hof]
      rfl
    have hfind : (Text.words counts.failedLine).find? Text.isDigits =
        some (Text.decimal (counts.value .failed)) := by
      rw [hwords, List.find?_cons_of_neg (by decide),
        List.find?_cons_of_pos (Text.isDigits_decimal _)]
    unfold line TestCount.read?
    rw [hfind]
    exact Text.digits?_decimal (counts.value_lt .failed)

end BuildSummary
