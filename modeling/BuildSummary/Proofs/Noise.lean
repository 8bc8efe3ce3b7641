import BuildSummary.Proofs.Evidence
import BuildSummary.Proofs.OpenRun
import BuildSummary.Proofs.PrintedWords
import BuildSummary.Proofs.WellFormed

/-!
# The noise of Cppcheck

Cppcheck prints its progress, remarks on the check itself and functions that no one calls among its
findings. The first is told by a phrase anywhere in the line, the other two by a phrase in the
message, which begins at the first parenthesis of the line. A remark carries its own parenthesis, so
it stands in the message wherever it stands in the line. A function that no one calls does not: if
the phrase comes before the first parenthesis, the line is a finding.

## Main definitions

* `Text.StandsInMessage`: a phrase stands in a line from its first parenthesis on
* `Checker.IsNoise`: a line of Cppcheck that tells nothing
* `Checker.Silences`: a log in which noise is replaced by lines that a checker does not read
* `Checker.CountsOneMore`: what is found later is a message more

## Main results

* `Checker.message?_cppcheck_eq_none_iff`: noise is what has no message
* `Checker.Silences.findings?_eq`: replacing lines without a message changes nothing
* `Checker.noise_never_counts`: noise never counts, and all other items do
* `Checker.not_forall_unused_silenced`: a function that no one calls may count
-/

namespace BuildSummary

/-! ## Where the message stands -/

namespace Text

variable {part text line : Text}

/-- Trimming takes away no part that has no blanks at its ends. -/
theorem occursIn_trim {first : Char} (hfirst : isBlank first = false) (rest : Text)
    (hend : trimEnd (first :: rest) = first :: rest) (text : Text) :
    occursIn (first :: rest) (trim text) = occursIn (first :: rest) text := by
  rw [trim, occursIn_trimEnd hend]
  -- a blank in front is not the first character of the part
  induction text with
  | nil => rfl
  | cons c text ih =>
    cases hc : isBlank c with
    | true =>
      have hne : first ∉ [c] := by
        rw [List.mem_singleton]
        rintro rfl
        rw [hc] at hfirst
        cases hfirst
      rw [List.dropWhile_cons_of_pos hc, ih, ← occursIn_append_of_not_mem hne,
        List.singleton_append]
    | false => rw [List.dropWhile_cons_of_neg (by simp [hc])]

/-- The phrase stands in the line from its first parenthesis on, or anywhere if it has none. -/
def StandsInMessage (phrase line : Text) : Prop :=
  '(' ∉ line ∧ phrase.occursIn line = true ∨
    ∃ lead rest, line = lead ++ '(' :: rest ∧ '(' ∉ lead ∧ phrase.occursIn ('(' :: rest) = true

end Text

namespace Placement

variable {line : Text}

theorem message_of_not_parenthesis (h : '(' ∉ line) :
    fromParenthesis.message line = Text.trim line := by
  have hdrop : line.dropWhile (· ≠ '(') = [] := by
    refine List.dropWhile_eq_nil_iff.mpr fun c hc => ?_
    simpa using ne_of_mem_of_not_mem hc h
  rw [message, hdrop]

/-- **A phrase is in the message** if it stands in the line from its first parenthesis on. -/
theorem occursIn_message_fromParenthesis {first : Char} (hfirst : Text.isBlank first = false)
    (rest : Text) (hend : Text.trimEnd (first :: rest) = first :: rest) (line : Text) :
    Text.occursIn (first :: rest) (fromParenthesis.message line) = true ↔
      Text.StandsInMessage (first :: rest) line := by
  constructor
  · intro h
    by_cases hmem : '(' ∈ line
    · obtain ⟨lead, message, rfl, hlead⟩ := List.eq_append_cons_of_mem hmem
      rw [message_fromParenthesis hlead rfl, Text.occursIn_trim hfirst rest hend] at h
      exact .inr ⟨lead, message, rfl, hlead, h⟩
    · rw [message_of_not_parenthesis hmem, Text.occursIn_trim hfirst rest hend] at h
      exact .inl ⟨hmem, h⟩
  · rintro (⟨hmem, h⟩ | ⟨lead, message, rfl, hlead, h⟩)
    · rw [message_of_not_parenthesis hmem, Text.occursIn_trim hfirst rest hend, h]
    · rw [message_fromParenthesis hlead rfl, Text.occursIn_trim hfirst rest hend, h]

end Placement

/-- A phrase that begins with a parenthesis stands in the message wherever it stands. -/
theorem Text.standsInMessage_parenthesis_iff {rest line : Text} :
    StandsInMessage ('(' :: rest) line ↔ occursIn ('(' :: rest) line = true := by
  constructor
  · rintro (⟨-, h⟩ | ⟨lead, message, rfl, hlead, h⟩)
    · exact h
    · rw [occursIn_append_of_not_mem hlead, h]
  · intro h
    by_cases hmem : '(' ∈ line
    · obtain ⟨lead, message, rfl, hlead⟩ := List.eq_append_cons_of_mem hmem
      rw [occursIn_append_of_not_mem hlead] at h
      exact .inr ⟨lead, message, rfl, hlead, h⟩
    · rw [occursIn_eq_false_of_not_mem List.mem_cons_self hmem] at h
      cases h

namespace Checker

variable {checker : Checker} {log other : List Text} {line : Text}

/-! ## What is noise -/

/-- A line has no message if some noise stands in it, or in what would be its message. -/
theorem message?_eq_none_iff : checker.message? line = none ↔
    (∃ noise ∈ checker.noiseInLines, noise.occursIn line = true) ∨
      ∃ noise ∈ checker.noiseInMessages,
        noise.occursIn (checker.placement.message line) = true := by
  rw [Option.eq_none_iff_forall_ne_some]
  constructor
  · intro h
    -- without noise, what would be the message is one
    by_contra hnone
    rw [not_or] at hnone
    refine h (checker.placement.message line) (message?_eq_some_iff.mpr ⟨?_, rfl, ?_⟩)
    · simpa using hnone.1
    · simpa using hnone.2
  · rintro (⟨noise, hnoise, h⟩ | ⟨noise, hnoise, h⟩) message hmessage
    · rw [(message?_eq_some_iff.mp hmessage).1 noise hnoise] at h
      cases h
    · obtain ⟨-, rfl, hmessages⟩ := message?_eq_some_iff.mp hmessage
      rw [hmessages noise hnoise] at h
      cases h

/-- A line of Cppcheck that tells nothing: its progress, a remark on the check itself, or a function
that no one calls. -/
inductive IsNoise (line : Text) : Prop
  | progress : Text.occursIn "Checking" line = true → IsNoise line
  | remark : Text.occursIn "(information)" line = true → IsNoise line
  | unused : Text.StandsInMessage "is never used" line → IsNoise line

/-- **Noise is what has no message.** -/
theorem message?_cppcheck_eq_none_iff : cppcheck.message? line = none ↔ IsNoise line := by
  have hunused : Text.occursIn "is never used" (cppcheck.placement.message line) = true ↔
      Text.StandsInMessage "is never used" line :=
    Placement.occursIn_message_fromParenthesis (by decide) _ (by decide) line
  have hremark : Text.occursIn "(information)" (cppcheck.placement.message line) = true ↔
      Text.occursIn "(information)" line = true :=
    (Placement.occursIn_message_fromParenthesis (by decide) _ (by decide) line).trans
      Text.standsInMessage_parenthesis_iff
  rw [message?_eq_none_iff]
  constructor
  · rintro (⟨noise, hnoise, h⟩ | ⟨noise, hnoise, h⟩)
    · obtain rfl := List.mem_singleton.mp hnoise
      exact .progress h
    · rcases List.mem_pair.mp hnoise with rfl | rfl
      · exact .unused (hunused.mp h)
      · exact .remark (hremark.mp h)
  · rintro (h | h | h)
    · exact .inl ⟨_, List.mem_cons_self, h⟩
    · exact .inr ⟨_, List.mem_cons_of_mem _ List.mem_cons_self, hremark.mpr h⟩
    · exact .inr ⟨_, List.mem_cons_self, hunused.mpr h⟩

/-! ## Replacing noise -/

/-- Items of the noise that stand in an open run are replaced by lines that the checker does not
read, and all other lines are kept. -/
structure Silences (checker : Checker) (noise : Text → Prop) (log other : List Text) : Prop where
  length_eq : other.length = log.length
  kept_or_silenced : ∀ i line, log[i]? = some line → other[i]? = some line ∨
    ((∃ file, checker.RunningOn file (log.take i)) ∧ checker.item.occursIn line = true ∧
      noise line ∧ ∃ silent, other[i]? = some silent ∧ checker.reads silent = false)

theorem Silences.refl (checker : Checker) (noise : Text → Prop) (log : List Text) :
    checker.Silences noise log log :=
  ⟨rfl, fun _ _ hline => .inl hline⟩

theorem Silences.mono {noise noise' : Text → Prop} (h : checker.Silences noise log other)
    (himp : ∀ line, noise line → noise' line) : checker.Silences noise' log other := by
  refine ⟨h.length_eq, fun i line hline => ?_⟩
  rcases h.kept_or_silenced i line hline with hkept | ⟨hrunning, hitem, hnoise, hsilent⟩
  · exact .inl hkept
  · exact .inr ⟨hrunning, hitem, himp line hnoise, hsilent⟩

/-- One more item of the noise that is replaced. -/
theorem Silences.concat {noise : Text → Prop} {file silent : Text}
    (h : checker.Silences noise log other) (hrunning : checker.RunningOn file log)
    (hitem : checker.item.occursIn line = true) (hnoise : noise line)
    (hsilent : checker.reads silent = false) :
    checker.Silences noise (log ++ [line]) (other ++ [silent]) := by
  refine ⟨by rw [List.length_append, List.length_append, h.length_eq]; rfl, ?_⟩
  intro i l hl
  rcases Nat.lt_or_ge i log.length with hlt | hge
  · rw [List.getElem?_append_left hlt] at hl
    rw [List.getElem?_append_left (h.length_eq ▸ hlt), List.take_append_of_le_length hlt.le]
    exact h.kept_or_silenced i l hl
  -- only the last line is new
  · obtain rfl : i = log.length := by
      have hlength := (List.getElem?_eq_some_iff.mp hl).1
      rw [List.length_append, List.length_singleton] at hlength
      omega
    rw [List.getElem?_concat_length] at hl
    obtain rfl := Option.some.inj hl
    refine .inr ⟨⟨file, ?_⟩, hitem, hnoise, silent, ?_, hsilent⟩
    · rw [List.take_left]
      exact hrunning
    · rw [← h.length_eq, List.getElem?_concat_length]

/-- In an open run, an item without a message changes nothing. -/
theorem scan_of_message?_eq_none {progress : Progress} {file : Text}
    (hfile : progress.file = some file) (hitem : checker.item.occursIn line = true)
    (hmessage : checker.message? line = none) : checker.scan progress line = progress := by
  simp [scan, hfile, hitem, hmessage]

/-- Replaced lines without a message leave the scanner where it was, line by line. -/
theorem Silences.foldl_scan_take
    (h : checker.Silences (fun line => checker.message? line = none) log other) (n : Nat) :
    (other.take n).foldl checker.scan {} = (log.take n).foldl checker.scan {} := by
  induction n with
  | zero => rfl
  | succ n ih =>
    rw [List.take_add_one, List.take_add_one, List.foldl_append, List.foldl_append, ih]
    cases hline : log[n]? with
    | none =>
      have hother : other[n]? = none := by
        rw [List.getElem?_eq_none_iff] at hline ⊢
        rw [h.length_eq]
        exact hline
      rw [hother]
    | some line =>
      rcases h.kept_or_silenced n line hline with
        hkept | ⟨⟨file, hrunning⟩, hitem, hmessage, silent, hsilent, hreads⟩
      · rw [hkept]
      -- neither the noise nor the line in its place changes what is known
      · rw [hsilent, Option.toList_some, List.foldl_cons, List.foldl_nil, Option.toList_some,
          List.foldl_cons, List.foldl_nil, scan_of_not_reads hreads,
          scan_of_message?_eq_none hrunning.file_foldl_scan hitem hmessage]

/-- **Replacing lines without a message** changes nothing. -/
theorem Silences.findings?_eq
    (h : checker.Silences (fun line => checker.message? line = none) log other) :
    checker.findings? other = checker.findings? log := by
  have hall := h.foldl_scan_take log.length
  rw [List.take_length, ← h.length_eq, List.take_length] at hall
  exact congrArg Progress.findings hall

/-! ## Counting what is no noise -/

/-- Once a run was opened on a file, there are findings, and the file is among theirs. -/
theorem RunningOn.exists_findings {file : Text} (h : checker.RunningOn file log) :
    ∃ findings, checker.findings? log = some findings ∧ findings.contains file = true := by
  have hmem := (mem_files_foldl_scan checker log file).mpr h.exists_opens
  rw [Findings.files, Index.mem_keys_iff] at hmem
  unfold findings?
  cases hfindings : (log.foldl checker.scan {}).findings with
  | none =>
    rw [hfindings] at hmem
    cases hmem
  | some findings =>
    rw [hfindings] at hmem
    exact ⟨findings, rfl, hmem⟩

/-- In an open run, an item with a message counts once more. -/
theorem findings?_concat_of_message? {file message : Text} (hrunning : checker.RunningOn file log)
    (hitem : checker.item.occursIn line = true) (hmessage : checker.message? line = some message) :
    checker.findings? (log ++ [line]) =
      some (((checker.findings? log).getD ∅).add file message) := by
  unfold findings?
  rw [List.foldl_concat]
  simp [scan, hrunning.file_foldl_scan, hitem, hmessage]

/-- What is found later is what was found before and a message more: the same files, and each count
as it was but for that of the message in its file, which is one higher. -/
structure CountsOneMore (file message : Text) (findings later : Findings) : Prop where
  eq_add : later = findings.add file message
  mem_files_iff : ∀ f, f ∈ later.files ↔ f ∈ findings.files
  count_self : later.count file message = findings.count file message + 1
  count_other : ∀ f m, ¬ (f = file ∧ m = message) → later.count f m = findings.count f m

/-- A message in a file that is among those of the findings is one message more. -/
theorem countsOneMore_add {findings : Findings} {file : Text} (h : findings.contains file = true)
    (message : Text) : CountsOneMore file message findings (findings.add file message) where
  eq_add := rfl
  mem_files_iff f := by
    rw [Findings.files, Findings.files, Index.mem_keys_iff, Index.mem_keys_iff, Findings.add,
      Index.contains_alter, Bool.or_eq_true, decide_eq_true_eq]
    refine or_iff_right_of_imp ?_
    rintro rfl
    exact h
  count_self := by rw [Findings.count_add, if_pos ⟨rfl, rfl⟩]
  count_other f m hne := by rw [Findings.count_add, if_neg hne, Nat.add_zero]

/-- **Noise never counts**: the findings of Cppcheck are the same if it is replaced by lines that
are not read. Every other item in an open run counts once, in the file of the run, with what follows
its first parenthesis. -/
theorem noise_never_counts (log : List Text) :
    (∀ other, cppcheck.Silences IsNoise log other →
        cppcheck.findings? other = cppcheck.findings? log) ∧
      ∀ file line, cppcheck.RunningOn file log → cppcheck.item.occursIn line = true →
        ¬ IsNoise line → ∃ findings later, cppcheck.findings? log = some findings ∧
          cppcheck.findings? (log ++ [line]) = some later ∧
          CountsOneMore file (Placement.fromParenthesis.message line) findings later := by
  constructor
  · intro other h
    -- noise has no message, and that is all the scanner asks for
    exact (h.mono fun line => message?_cppcheck_eq_none_iff.mpr).findings?_eq
  · intro file line hrunning hitem hnoise
    obtain ⟨message, hmessage⟩ := Option.ne_none_iff_exists'.mp
      (mt message?_cppcheck_eq_none_iff.mp hnoise)
    obtain ⟨-, rfl, -⟩ := message?_eq_some_iff.mp hmessage
    obtain ⟨findings, hfindings, hfile⟩ := hrunning.exists_findings
    have hlater := findings?_concat_of_message? hrunning hitem hmessage
    rw [hfindings] at hlater
    exact ⟨findings, _, hfindings, hlater, countsOneMore_add hfile _⟩

/-- A function that no one calls is silenced, and one that is told before the first parenthesis of
its line counts: `(style)` did not occur in the file, and then occurs once. -/
theorem noise_never_counts_unused :
    ∃ log other line findings later, cppcheck.Silences IsNoise log other ∧
      cppcheck.findings? other = some findings ∧ cppcheck.findings? log = some findings ∧
        cppcheck.findings? (log ++ [line]) = some later ∧
          findings.count "a.cpp" "(style)" = 0 ∧ later.count "a.cpp" "(style)" = 1 ∧
            ("a.cpp" : Text) ∈ later.files := by
  let opening : Text := "MSGBLD0150: Running cppcheck for a.cpp"
  let noise : Text := "MSGBLD0155: [a.cpp:1]: (style) 'f' is never used"
  let line : Text := "MSGBLD0155: [a.cpp:1]: 'f' is never used (style)"
  have hrunning : cppcheck.RunningOn "a.cpp" [opening] :=
    ⟨[], opening, [], rfl, .nil, by decide, by decide, nofun⟩
  have hnoise : IsNoise noise := message?_cppcheck_eq_none_iff.mp (by decide)
  have hline : ¬ IsNoise line := mt message?_cppcheck_eq_none_iff.mpr (by decide)
  have hsilences : cppcheck.Silences IsNoise [opening, noise] [opening, []] :=
    (Silences.refl cppcheck IsNoise [opening]).concat hrunning (by decide) hnoise (by decide)
  obtain ⟨hsilenced, hcounts⟩ := noise_never_counts [opening, noise]
  obtain ⟨findings, later, hfindings, hlater, hmore⟩ :=
    hcounts "a.cpp" line (hrunning.inside (by decide)) (by decide) hline
  -- the run has just begun, and all that it told is noise
  have hbegun : cppcheck.findings? [opening, noise] = some (Findings.begin ∅ "a.cpp") := by decide
  obtain rfl := Option.some.inj (hbegun.symm.trans hfindings)
  refine ⟨_, _, line, _, later, hsilences, (hsilenced _ hsilences).trans hfindings, hfindings,
    hlater, by decide, hmore.count_self.trans (by decide), ?_⟩
  exact (hmore.mem_files_iff _).mpr (by decide)

/-- **A function that no one calls may count**: if the line tells so before its first parenthesis,
the message does not. -/
theorem not_forall_unused_silenced :
    ¬ ∀ log other, cppcheck.Silences (fun line => Text.occursIn "Checking" line = true ∨
        Text.occursIn "is never used" line = true ∨ Text.occursIn "(information)" line = true)
          log other → cppcheck.findings? other = cppcheck.findings? log := by
  intro h
  let opening : Text := "MSGBLD0150: Running cppcheck for a.cpp"
  let unused : Text := "MSGBLD0155: [a.cpp:1]: 'f' is never used (style)"
  have hrunning : cppcheck.RunningOn "a.cpp" [opening] :=
    ⟨[], opening, [], rfl, .nil, by decide, by decide, nofun⟩
  have hsame := h [opening, unused] [opening, []] <|
    (Silences.refl cppcheck _ [opening]).concat hrunning (by decide) (.inr (.inl (by decide)))
      (by decide)
  exact absurd hsame (by decide)

end Checker

end BuildSummary
