import BuildSummary.Proofs.Growth

/-!
# The lines of a test summary

A line belongs to the summary of the tests if it stands in their window and it or an earlier line of
the window is the banner. The log is unreadable exactly if one of these lines carries the label of a
count and does not tell it, and the error names the first such line. Otherwise each count is the one
that the last line with its label tells.

## Main definitions

* `Text.Spells`: a word is a number in digits
* `TestCount.Tells`, `TestCount.MissingOn`: a line tells a count, or only carries its label
* `TestRun.InSummary`: the line with a number belongs to the summary
* `TestRun.IsFirstMissing`, `TestRun.IsToldBy`: what an error and the counts say of a log

## Main results

* `TestCount.read?_eq_some_iff`: a count is read from a line if and only if the line tells it
* `TestRun.exists_mem_summaryLines_iff`: which lines are read as the summary
* `TestRun.foldlM_readLine_eq_error_iff`: the error is that of the first line that has one
* `TestRun.ofLog_of_summary`: what is read of the tests, errors included
-/

namespace BuildSummary

/-! ## Numbers on a line -/

namespace Text

variable {word line : Text} {n : Nat}

/-- The word is the number in ASCII digits, and the number is below the bound. -/
structure Spells (word : Text) (n : Nat) : Prop where
  ne_nil : word ≠ []
  isDigit : ∀ c ∈ word, c.isDigit = true
  value_eq : Nat.ofDigitChars 10 word 0 = n
  lt : n < numberBound

theorem isDigits_iff : word.isDigits = true ↔ word ≠ [] ∧ ∀ c ∈ word, c.isDigit = true := by
  rw [isDigits, Bool.and_eq_true, List.all_eq_true]
  refine and_congr_left fun _ => ?_
  simp

theorem digits?_eq_some_iff : digits? word = some n ↔ word.Spells n := by
  unfold digits?
  simp only [Bool.and_eq_true, decide_eq_true_eq, isDigits_iff, Option.ite_none_right_eq_some,
    Option.some.injEq]
  constructor
  · rintro ⟨⟨⟨hne, hdigit⟩, hlt⟩, rfl⟩
    exact ⟨hne, hdigit, rfl, hlt⟩
  · rintro ⟨hne, hdigit, rfl, hlt⟩
    exact ⟨⟨⟨hne, hdigit⟩, hlt⟩, rfl⟩

theorem number?_eq_some_iff :
    number? word = some n ↔
      word.Spells n ∨ ∃ digits : Text, word = '+' :: digits ∧ digits.Spells n := by
  unfold number?
  split
  · rename_i rest
    have hplus : ¬ Spells ('+' :: rest) n := fun h => absurd (h.isDigit '+' List.mem_cons_self)
      (by decide)
    rw [or_iff_right hplus, digits?_eq_some_iff]
    constructor
    · intro h
      exact ⟨rest, rfl, h⟩
    · rintro ⟨digits, hdigits, h⟩
      rw [(List.cons.inj hdigits).2]
      exact h
  · rename_i hplus
    rw [digits?_eq_some_iff]
    refine (or_iff_left ?_).symm
    rintro ⟨digits, rfl, -⟩
    exact hplus digits rfl

/-- A word is no number if and only if some character of it is no digit. -/
theorem isDigits_eq_false_iff (hword : word ∈ words line) :
    word.isDigits = false ↔ ∃ c ∈ word, c.isDigit = false := by
  have hne : word ≠ [] := by
    rintro rfl
    exact absurd (List.mem_filter.mp hword).2 (by decide)
  rw [← Bool.not_eq_true, isDigits_iff]
  simp [hne]

end Text

namespace TestCount

variable {count : TestCount} {line : Text} {n : Nat}

/-- The line tells the number: its last word for the total, with an optional plus sign, and the
first word of digits alone for the failed tests. -/
inductive Tells (line : Text) (n : Nat) : TestCount → Prop
  | total (word : Text) : (Text.words line).getLast? = some word →
      (word.Spells n ∨ ∃ digits : Text, word = '+' :: digits ∧ digits.Spells n) →
      Tells line n .total
  | failed (before : List Text) (word : Text) (after : List Text) :
      Text.words line = before ++ word :: after →
      (∀ other ∈ before, ∃ c ∈ other, c.isDigit = false) → word.Spells n → Tells line n .failed

/-- **A count is read from a line** if and only if the line tells it. -/
theorem read?_eq_some_iff : count.read? line = some n ↔ Tells line n count := by
  cases count with
  | total =>
    change Text.number? (((Text.words line).getLast?).getD []) = some n ↔ _
    rw [Text.number?_eq_some_iff]
    constructor
    · intro h
      cases hlast : (Text.words line).getLast? with
      | some word =>
        rw [hlast, Option.getD_some] at h
        exact .total word hlast h
      -- the empty text, which stands for a missing word, is no number
      | none =>
        rw [hlast, Option.getD_none] at h
        rcases h with h | ⟨digits, hdigits, -⟩
        · exact absurd rfl h.ne_nil
        · cases hdigits
    · rintro ⟨word, hlast, h⟩
      rw [hlast, Option.getD_some]
      exact h
  | failed =>
    change (Text.words line).find? Text.isDigits >>= Text.digits? = some n ↔ _
    rw [Option.bind_eq_bind, Option.bind_eq_some_iff]
    constructor
    · rintro ⟨word, hfind, hword⟩
      obtain ⟨-, before, after, hwords, hbefore⟩ := List.find?_eq_some_iff_append.mp hfind
      refine .failed before word after hwords (fun other hother => ?_)
        (Text.digits?_eq_some_iff.mp hword)
      have hmem : other ∈ Text.words line := hwords ▸ List.mem_append_left _ hother
      exact (Text.isDigits_eq_false_iff hmem).mp (by simpa using hbefore other hother)
    · rintro (_ | ⟨before, word, after, hwords, hbefore, hword⟩)
      refine ⟨word, List.find?_eq_some_iff_append.mpr ⟨?_, before, after, hwords, ?_⟩,
        Text.digits?_eq_some_iff.mpr hword⟩
      · exact Text.isDigits_iff.mpr ⟨hword.ne_nil, hword.isDigit⟩
      · intro other hother
        have hmem : other ∈ Text.words line := hwords ▸ List.mem_append_left _ hother
        rw [(Text.isDigits_eq_false_iff hmem).mpr (hbefore other hother)]
        rfl

/-- The line carries the label of the count and does not tell it. -/
def MissingOn (count : TestCount) (line : Text) : Prop :=
  count.label.occursIn line = true ∧ ∀ n, ¬ Tells line n count

theorem isMalformedOn_iff : count.IsMalformedOn line ↔ count.MissingOn line := by
  refine and_congr_right fun _ => ?_
  rw [Option.eq_none_iff_forall_ne_some]
  exact forall_congr' fun n => not_congr read?_eq_some_iff

end TestCount

/-! ## Lines and their numbers -/

section Numbered

variable {α : Type} {p : α → Bool} {l : List α} {y : α}

/-- What is left of a list stands at or behind the first element without the property. -/
theorem mem_dropWhile_iff :
    y ∈ l.dropWhile p ↔ ∃ before after, l = before ++ y :: after ∧
      ∃ z ∈ before ++ [y], p z = false := by
  induction l with
  | nil => simp
  | cons x l ih =>
    rw [List.dropWhile_cons]
    cases hx : p x with
    | true =>
      rw [if_pos rfl, ih]
      constructor
      · rintro ⟨before, after, rfl, z, hz, hp⟩
        exact ⟨x :: before, after, rfl, z, List.mem_cons_of_mem x hz, hp⟩
      · rintro ⟨before, after, hl, z, hz, hp⟩
        cases before with
        | nil =>
          obtain ⟨rfl, rfl⟩ := List.cons.inj hl
          rw [List.mem_singleton.mp hz, hx] at hp
          cases hp
        | cons x' before =>
          obtain ⟨rfl, rfl⟩ := List.cons.inj hl
          rcases List.mem_cons.mp hz with rfl | hz
          · rw [hx] at hp
            cases hp
          · exact ⟨before, after, rfl, z, hz, hp⟩
    | false =>
      rw [if_neg Bool.false_ne_true, List.mem_iff_append]
      constructor
      · rintro ⟨before, after, hl⟩
        refine ⟨before, after, hl, x, ?_, hx⟩
        cases before with
        | nil => exact List.mem_singleton.mpr (List.cons.inj hl).1
        | cons x' before =>
          rw [(List.cons.inj hl).1]
          exact List.mem_cons_self
      · rintro ⟨before, after, hl, -⟩
        exact ⟨before, after, hl⟩

/-- A list up to the first element with the property, and that element. -/
theorem exists_cut_eq_append_cons_iff {before : List α} :
    (∃ after, l.takeWhile (!p ·) ++ (l.dropWhile (!p ·)).take 1 = before ++ y :: after) ↔
      (∃ after, l = before ++ y :: after) ∧ ∀ x ∈ before, p x = false := by
  induction before generalizing l with
  | nil =>
    cases l with
    | nil => simp
    | cons x l => cases hx : p x <;> simp [hx]
  | cons x' before ih =>
    cases l with
    | nil => simp
    | cons x l =>
      cases hx : p x with
      | true =>
        refine iff_of_false ?_ ?_
        · simp [hx]
        · rintro ⟨⟨after, hl⟩, hbefore⟩
          rw [(List.cons.inj hl).1, hbefore x' List.mem_cons_self] at hx
          cases hx
      | false =>
        have hcut := ih (l := l)
        simp only [List.takeWhile_cons, List.dropWhile_cons, hx, Bool.not_false, if_true,
          List.cons_append, List.cons.injEq, exists_and_left, List.forall_mem_cons]
        rw [hcut]
        constructor
        · rintro ⟨rfl, hl, hbefore⟩
          exact ⟨⟨rfl, hl⟩, hx, hbefore⟩
        · rintro ⟨⟨hx', hl⟩, -, hbefore⟩
          exact ⟨hx', hl, hbefore⟩

/-- In a list with ascending numbers, what stands behind an element has a higher number. -/
theorem mem_after_iff {before after : List (α × Nat)} {x y : α × Nat}
    (h : (before ++ x :: after).Pairwise (·.2 < ·.2)) :
    y ∈ after ↔ y ∈ before ++ x :: after ∧ x.2 < y.2 := by
  obtain ⟨-, hx, hbefore⟩ := List.pairwise_append.mp h
  constructor
  · intro hy
    exact ⟨List.mem_append_right _ (List.mem_cons_of_mem x hy), List.rel_of_pairwise_cons hx hy⟩
  · rintro ⟨hy, hlt⟩
    rcases List.mem_append.mp hy with hy | hy
    · exact absurd (hbefore y hy x List.mem_cons_self) (Nat.lt_asymm hlt)
    · rcases List.mem_cons.mp hy with rfl | hy
      · exact absurd hlt (Nat.lt_irrefl _)
      · exact hy

/-- In a list with ascending numbers, what stands before an element has a lower number. -/
theorem mem_before_iff {before after : List (α × Nat)} {x y : α × Nat}
    (h : (before ++ x :: after).Pairwise (·.2 < ·.2)) :
    y ∈ before ↔ y ∈ before ++ x :: after ∧ y.2 < x.2 := by
  obtain ⟨-, hx, hbefore⟩ := List.pairwise_append.mp h
  constructor
  · intro hy
    exact ⟨List.mem_append_left _ hy, hbefore y hy x List.mem_cons_self⟩
  · rintro ⟨hy, hlt⟩
    rcases List.mem_append.mp hy with hy | hy
    · exact hy
    · rcases List.mem_cons.mp hy with rfl | hy
      · exact absurd hlt (Nat.lt_irrefl _)
      · exact absurd (List.rel_of_pairwise_cons hx hy) (Nat.lt_asymm hlt)

end Numbered

/-- The count of the error is missing on its line, and it is the total if that one is missing. -/
structure MalformedCount.Holds (e : MalformedCount) : Prop where
  missingOn : e.count.MissingOn e.line
  total_first : e.count = .failed → ¬ TestCount.total.MissingOn e.line

namespace TestRun

variable {phase : Phase} {log : List Text} {line : Text} {number : Nat} {window : Window}

/-- The numbers of the summary lines ascend. -/
theorem pairwise_summaryLines (window : Window) :
    (summaryLines window).Pairwise (·.2 < ·.2) := by
  have hnumbers : (window.lines.zipIdx (window.offset + 1)).Pairwise (·.2 < ·.2) := by
    rw [← List.pairwise_map, List.zipIdx_map_snd]
    exact List.pairwise_lt_range' 1
  exact hnumbers.sublist (List.dropWhile_sublist _)

theorem mem_summaryLines_iff :
    (line, number) ∈ summaryLines window ↔ ∃ inside after, window.lines = inside ++ line :: after ∧
      (∃ l ∈ inside ++ [line], Text.trim l = banner) ∧
        number = window.offset + inside.length + 1 := by
  have hfst (inside : List Text) (k j : Nat) :
      (inside.zipIdx k ++ [(line, j)]).map (·.1) = inside ++ [line] := by simp
  unfold summaryLines
  rw [mem_dropWhile_iff]
  -- a cut of the numbered lines is a cut of the lines, and the number counts those before it
  constructor
  · rintro ⟨before, after, hlines, ⟨l, k⟩, hl, hbanner⟩
    obtain ⟨inside, rest, hwindow, rfl, hrest⟩ := List.zipIdx_eq_append_iff.mp hlines
    obtain ⟨last, after', rfl, hline, -⟩ := List.zipIdx_eq_cons_iff.mp hrest.symm
    obtain ⟨rfl, rfl⟩ := Prod.mk.inj hline
    refine ⟨inside, after', hwindow, ⟨l, ?_, by simpa using hbanner⟩, by omega⟩
    rw [← hfst inside]
    exact List.mem_map_of_mem hl
  · rintro ⟨inside, after, hwindow, ⟨l, hl, hbanner⟩, rfl⟩
    rw [← hfst inside (window.offset + 1) (window.offset + 1 + inside.length)] at hl
    obtain ⟨⟨l', k⟩, hmem, rfl⟩ := List.mem_map.mp hl
    refine ⟨inside.zipIdx (window.offset + 1),
      after.zipIdx (window.offset + 1 + inside.length + 1), ?_, (l', k), ?_, ?_⟩
    · rw [hwindow, List.zipIdx_append, List.zipIdx_cons, Nat.add_right_comm]
    · rw [Nat.add_right_comm]
      exact hmem
    · simpa using hbanner

/-- The line with the number, from 1, is one of the summary: it stands in the window of the phase,
and it or an earlier line of the window is the banner but for blanks. -/
def InSummary (phase : Phase) (log : List Text) (number : Nat) (line : Text) : Prop :=
  ∃ before inside after, phase.Begins log before (inside ++ line :: after) ∧
    (∀ l ∈ inside, phase.closes l = false) ∧ (∃ l ∈ inside ++ [line], Text.trim l = banner) ∧
      number = before.length + inside.length + 1

/-- **Which lines are read as the summary.** -/
theorem exists_mem_summaryLines_iff :
    (∃ window ∈ phase.window? log, (line, number) ∈ summaryLines window) ↔
      InSummary phase log number line := by
  constructor
  · rintro ⟨window, hwindow, hmem⟩
    obtain ⟨before, rest, hbegins⟩ := Phase.exists_begins_of_window?_eq_some hwindow
    obtain rfl := Option.some.inj (hbegins.window?.symm.trans hwindow)
    obtain ⟨inside, after, hlines, hbanner, rfl⟩ := mem_summaryLines_iff.mp hmem
    obtain ⟨⟨after', rfl⟩, hinside⟩ := exists_cut_eq_append_cons_iff.mp ⟨after, hlines⟩
    exact ⟨before, inside, after', hbegins, hinside, hbanner, rfl⟩
  · rintro ⟨before, inside, after, hbegins, hinside, hbanner, rfl⟩
    refine ⟨_, hbegins.window?, mem_summaryLines_iff.mpr ?_⟩
    obtain ⟨after', hlines⟩ := exists_cut_eq_append_cons_iff.mpr ⟨⟨after, rfl⟩, hinside⟩
    exact ⟨inside, after', hlines, hbanner, rfl⟩

theorem inSummary_iff (h : phase.window? log = some window) :
    InSummary phase log number line ↔ (line, number) ∈ summaryLines window := by
  rw [← exists_mem_summaryLines_iff, h]
  simp

/-! ## The first line that lacks a count -/

theorem readCount_eq_error_iff {count : TestCount} {current : Option Nat} {e : MalformedCount} :
    readCount count current line number = .error e ↔
      count.MissingOn line ∧ e = ⟨count, number, line⟩ := by
  rw [← TestCount.isMalformedOn_iff]
  unfold readCount TestCount.IsMalformedOn
  cases hlabel : count.label.occursIn line with
  | false => simp
  | true => cases hread : count.read? line <;> simp [eq_comm]

/-- **A line cannot be read** if a count is missing on it; the total is looked for first. -/
theorem readLine_eq_error_iff {run : TestRun} {numbered : Text × Nat} {e : MalformedCount} :
    readLine run numbered = .error e ↔ numbered = (e.line, e.lineNumber) ∧ e.Holds := by
  obtain ⟨line, number⟩ := numbered
  unfold readLine
  simp only [bind_eq_error_iff, readCount_eq_error_iff, TestCount.readCount_eq_ok_iff,
    TestCount.isMalformedOn_iff]
  constructor
  · rintro (⟨hmissing, rfl⟩ | ⟨total, ⟨htotal, -⟩, ⟨hmissing, rfl⟩ | ⟨failed, -, h⟩⟩)
    · exact ⟨rfl, hmissing, nofun⟩
    · exact ⟨rfl, hmissing, fun _ => htotal⟩
    · cases h
  · obtain ⟨count, number', line'⟩ := e
    rintro ⟨hnumbered, hmissing, hfirst⟩
    obtain ⟨rfl, rfl⟩ := Prod.mk.inj hnumbered
    cases count with
    | total => exact .inl ⟨hmissing, rfl⟩
    | failed => exact .inr ⟨_, ⟨hfirst rfl, rfl⟩, .inl ⟨hmissing, rfl⟩⟩

/-- **The error is that of the first line that has one.** -/
theorem foldlM_readLine_eq_error_iff {run : TestRun} {numbered : List (Text × Nat)}
    {e : MalformedCount} :
    numbered.foldlM readLine run = .error e ↔ e.Holds ∧ ∃ before after,
      numbered = before ++ (e.line, e.lineNumber) :: after ∧
        ∀ earlier ∈ before, ∀ count : TestCount, ¬ count.MissingOn earlier.1 := by
  -- the counts so far are generalized, since they play no part in what the error is
  induction numbered generalizing run with
  | nil =>
    refine iff_of_false nofun ?_
    rintro ⟨-, before, after, h, -⟩
    exact absurd h (by simp)
  | cons first rest ih =>
    rw [List.foldlM_cons, bind_eq_error_iff]
    constructor
    · rintro (hfirst | ⟨next, hnext, hrest⟩)
      · obtain ⟨rfl, hholds⟩ := readLine_eq_error_iff.mp hfirst
        exact ⟨hholds, [], rest, rfl, nofun⟩
      · obtain ⟨hholds, before, after, rfl, hbefore⟩ := ih.mp hrest
        refine ⟨hholds, first :: before, after, rfl, List.forall_mem_cons.mpr ⟨?_, hbefore⟩⟩
        intro count hmissing
        exact (readLine_eq_ok_iff.mp hnext).1 count (TestCount.isMalformedOn_iff.mpr hmissing)
    · rintro ⟨hholds, before, after, hsplit, hbefore⟩
      cases before with
      | nil =>
        obtain ⟨rfl, rfl⟩ := List.cons.inj hsplit
        exact .inl (readLine_eq_error_iff.mpr ⟨rfl, hholds⟩)
      | cons first' before =>
        obtain ⟨rfl, rfl⟩ := List.cons.inj hsplit
        rw [List.forall_mem_cons] at hbefore
        have hfirst : ∀ count : TestCount, ¬ count.IsMalformedOn first.1 := fun count hcount =>
          hbefore.1 count (TestCount.isMalformedOn_iff.mp hcount)
        exact .inr ⟨_, readLine_eq_ok_iff.mpr ⟨hfirst, rfl⟩,
          ih.mpr ⟨hholds, before, after, rfl, hbefore.2⟩⟩

/-- The error is that of the first line of the summary that has one. -/
structure IsFirstMissing (phase : Phase) (log : List Text) (e : MalformedCount) : Prop where
  inSummary : InSummary phase log e.lineNumber e.line
  holds : e.Holds
  first : ∀ number line, InSummary phase log number line → number < e.lineNumber →
    ∀ count : TestCount, ¬ count.MissingOn line

/-- **When a log cannot be read, and what the error is.** -/
theorem ofLog_eq_error_iff_isFirstMissing {e : MalformedCount} :
    ofLog phase log = .error e ↔ IsFirstMissing phase log e := by
  cases hwindow : phase.window? log with
  | none =>
    refine iff_of_false ?_ fun h => ?_
    · rw [ofLog_eq, hwindow]
      intro h
      cases h
    · obtain ⟨window, hsome, -⟩ := exists_mem_summaryLines_iff.mpr h.inSummary
      rw [hwindow] at hsome
      cases hsome
  | some window =>
    -- the numbers ascend, so standing earlier in the summary is having a lower number
    have hnumbers := pairwise_summaryLines window
    rw [ofLog_eq_error_iff hwindow, foldlM_readLine_eq_error_iff]
    constructor
    · rintro ⟨hholds, before, after, hsplit, hbefore⟩
      rw [hsplit] at hnumbers
      refine ⟨?_, hholds, fun number line h hlt => ?_⟩
      · rw [inSummary_iff hwindow, hsplit]
        exact List.mem_append_right before List.mem_cons_self
      · rw [inSummary_iff hwindow, hsplit] at h
        exact hbefore _ ((mem_before_iff hnumbers).mpr ⟨h, hlt⟩)
    · rintro ⟨hmem, hholds, hfirst⟩
      rw [inSummary_iff hwindow] at hmem
      obtain ⟨before, after, hsplit⟩ := List.mem_iff_append.mp hmem
      refine ⟨hholds, before, after, hsplit, fun earlier hearlier => ?_⟩
      rw [hsplit] at hnumbers
      obtain ⟨h, hlt⟩ := (mem_before_iff hnumbers).mp hearlier
      rw [← hsplit] at h
      exact hfirst earlier.2 earlier.1 ((inSummary_iff hwindow).mpr h) hlt

/-! ## What is told otherwise -/

/-- One of the two counts. -/
def get (run : TestRun) : TestCount → Option Nat
  | .total => run.total
  | .failed => run.failed

/-- What the lines of a log tell of the tests. A phase that never opens has no summary, so no count
is told of it. -/
structure IsToldBy (phase : Phase) (log : List Text) (run : TestRun) : Prop where
  skipped_iff : run.status = .skipped ↔ ∀ line ∈ log, phase.opens line = false
  passed_iff : run.status = .passed ↔
    (∃ lines, phase.Completes log lines) ∧ run.failed = some 0
  get_eq_some_iff : ∀ count n, run.get count = some n ↔ ∃ number line,
    InSummary phase log number line ∧ count.label.occursIn line = true ∧
      TestCount.Tells line n count ∧ ∀ later line', InSummary phase log later line' →
        number < later → count.label.occursIn line' = false

theorem IsToldBy.unique {run run' : TestRun} (h : IsToldBy phase log run)
    (h' : IsToldBy phase log run') : run = run' := by
  have hget (count : TestCount) : run.get count = run'.get count :=
    Option.ext fun n => (h.get_eq_some_iff count n).trans (h'.get_eq_some_iff count n).symm
  have htotal : run.total = run'.total := hget .total
  have hfailed : run.failed = run'.failed := hget .failed
  -- a status that is neither skipped nor passed is failed
  have hskipped := h.skipped_iff.trans h'.skipped_iff.symm
  have hpassed := h.passed_iff
  rw [hfailed, ← h'.passed_iff] at hpassed
  have hstatus : run.status = run'.status := by
    cases hrun : run.status <;> cases hrun' : run'.status <;> simp_all
  cases run
  cases run'
  simp only at htotal hfailed hstatus
  rw [htotal, hfailed, hstatus]

/-- The count on the last line of the summary with its label. -/
theorem latest_summary_eq_some_iff {count : TestCount} {n : Nat} :
    count.latest none (summary window.lines) = some n ↔ ∃ number line,
      (line, number) ∈ summaryLines window ∧ count.label.occursIn line = true ∧
        TestCount.Tells line n count ∧ ∀ later line', (line', later) ∈ summaryLines window →
          number < later → count.label.occursIn line' = false := by
  have hnumbers := pairwise_summaryLines window
  rw [TestCount.latest_none_eq_some_iff, ← map_summaryLines]
  constructor
  · rintro ⟨before, last, after, hsplit, hlast, hafter, hread⟩
    obtain ⟨lead, rest, hlines, rfl, hrest⟩ := List.map_eq_append_iff.mp hsplit
    obtain ⟨⟨line, number⟩, tail, rfl, rfl, rfl⟩ := List.map_eq_cons_iff.mp hrest
    rw [hlines] at hnumbers ⊢
    refine ⟨number, line, List.mem_append_right lead List.mem_cons_self, hlast,
      TestCount.read?_eq_some_iff.mp hread, fun later line' hmem hlt => ?_⟩
    exact hafter line' (List.mem_map_of_mem ((mem_after_iff hnumbers).mpr ⟨hmem, hlt⟩))
  · rintro ⟨number, line, hmem, hlabel, htells, hlater⟩
    obtain ⟨lead, tail, hlines⟩ := List.mem_iff_append.mp hmem
    rw [hlines] at hnumbers hlater ⊢
    refine ⟨lead.map (·.1), line, tail.map (·.1), by simp, hlabel, fun line' hline' => ?_,
      TestCount.read?_eq_some_iff.mpr htells⟩
    obtain ⟨⟨line', later⟩, hmem, rfl⟩ := List.mem_map.mp hline'
    obtain ⟨hmem, hlt⟩ := (mem_after_iff hnumbers).mp hmem
    exact hlater later line' hmem hlt

/-- What is read of a log is what its lines tell. -/
theorem isToldBy_of_ofLog_eq_ok {run : TestRun} (h : ofLog phase log = .ok run) :
    IsToldBy phase log run := by
  have hskipped := (status_eq_skipped_iff h).trans Phase.window?_eq_none_iff
  cases hwindow : phase.window? log with
  | none =>
    rw [ofLog_eq, hwindow] at h
    cases h
    refine ⟨hskipped, iff_of_false ?_ ?_, fun count n => iff_of_false ?_ ?_⟩
    · intro hpassed
      cases hpassed
    · rintro ⟨⟨lines, hlines⟩, -⟩
      obtain ⟨offset, hsome⟩ := hlines.window?
      rw [hwindow] at hsome
      cases hsome
    · intro hsome
      cases count <;> cases hsome
    · rintro ⟨number, line, hmem, -⟩
      obtain ⟨window, hsome, -⟩ := exists_mem_summaryLines_iff.mpr hmem
      rw [hwindow] at hsome
      cases hsome
  | some window =>
    obtain ⟨offset, lines, isClosed⟩ := window
    obtain ⟨-, rfl⟩ := (ofLog_eq_ok_iff hwindow).mp h
    refine ⟨hskipped, ?_, fun count n => ?_⟩
    · have hcompleted : (∃ lines, phase.Completes log lines) ↔ isClosed = true := by
        simp only [Phase.completes_iff, hwindow]
        simp
      rw [Status.ofSuccess_eq_passed_iff, hcompleted, Bool.and_eq_true, decide_eq_true_eq]
    · simp only [inSummary_iff hwindow]
      rw [← latest_summary_eq_some_iff]
      cases count <;> rfl

/-- A log that can be read has no line of the summary that lacks a count. -/
theorem not_missingOn_of_ofLog_eq_ok {run : TestRun} (h : ofLog phase log = .ok run)
    (hline : InSummary phase log number line) (count : TestCount) : ¬ count.MissingOn line := by
  obtain ⟨window, hwindow, hmem⟩ := exists_mem_summaryLines_iff.mpr hline
  obtain ⟨offset, lines, isClosed⟩ := window
  have hsummary : line ∈ summary lines := by
    rw [← map_summaryLines ⟨offset, lines, isClosed⟩]
    exact List.mem_map_of_mem hmem
  rw [← TestCount.isMalformedOn_iff]
  exact ((ofLog_eq_ok_iff hwindow).mp h).1 line hsummary count

/-- **What is read of the tests.** There is an error if and only if some line of the summary lacks a
count, and then it is that of the first such line. Otherwise the result is what the lines tell. -/
theorem ofLog_of_summary (phase : Phase) (log : List Text) :
    ((∃ e, ofLog phase log = .error e) ↔ ∃ number line, InSummary phase log number line ∧
        ∃ count : TestCount, count.MissingOn line) ∧
      (∀ e, ofLog phase log = .error e ↔ IsFirstMissing phase log e) ∧
        ∀ run, ofLog phase log = .ok run ↔
          (∀ number line, InSummary phase log number line →
            ∀ count : TestCount, ¬ count.MissingOn line) ∧ IsToldBy phase log run := by
  refine ⟨?_, fun e => ofLog_eq_error_iff_isFirstMissing, fun run => ?_⟩
  · constructor
    · rintro ⟨e, he⟩
      have hfirst := ofLog_eq_error_iff_isFirstMissing.mp he
      exact ⟨_, _, hfirst.inSummary, _, hfirst.holds.missingOn⟩
    · rintro ⟨number, line, hline, count, hmissing⟩
      cases hlog : ofLog phase log with
      | error e => exact ⟨e, rfl⟩
      | ok run => exact absurd hmissing (not_missingOn_of_ofLog_eq_ok hlog hline count)
  · constructor
    · intro h
      exact ⟨fun number line hline => not_missingOn_of_ofLog_eq_ok h hline,
        isToldBy_of_ofLog_eq_ok h⟩
    -- without a missing count the log can be read, and its lines tell only one result
    · rintro ⟨hnone, htold⟩
      cases hlog : ofLog phase log with
      | error e =>
        have hfirst := ofLog_eq_error_iff_isFirstMissing.mp hlog
        exact absurd hfirst.holds.missingOn (hnone _ _ hfirst.inSummary _)
      | ok read => rw [htold.unique (isToldBy_of_ofLog_eq_ok hlog)]

/-- Both counts are missing on the third line, and one on the fourth: the error tells the total on
the third. -/
theorem ofLog_of_summary_both :
    ∃ log e, ofLog .testing log = .error e ∧ e.count = .total ∧ e.lineNumber = 3 ∧
      IsFirstMissing .testing log e := by
  let bad : Text := "Total number of tests: many, Failed: some"
  let log : List Text :=
    ["MSGBLD0290: Running make installcheck.", "  NEST Testsuite Summary", bad, "Failed"]
  have herror : ofLog .testing log = .error ⟨.total, 3, bad⟩ := by decide
  exact ⟨log, _, herror, rfl, rfl, ((ofLog_of_summary .testing log).2.1 _).mp herror⟩

end TestRun

end BuildSummary
