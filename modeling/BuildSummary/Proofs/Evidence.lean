import BuildSummary.Proofs.TestSummary
import BuildSummary.BuildRecord

/-!
# What a record is read from

Each part of a record is read from the lines that carry one of its own markers or labels. All other
lines may be left out, wherever they stand, so the parts of a log may be interleaved. Leaving lines
out changes the numbers of the others, and nothing but an error tells a number.

## Main definitions

* `Phase.reads`, `Phase.readsItems`, `Checker.reads`, `Compilation.reads`, `TestRun.reads`: the
  lines that a part of the record is read from
* `MalformedCount.unnumbered`: what an error tells but for the number of the line
* `BuildRecord.SameEvidence`: two logs with the same lines for each part

## Main results

* `Phase.window?_filter_eq_some`: the window of a phase when lines are left out
* `BuildRecord.parts_filter_reads`: each part of a record depends on its own lines only, and the
  record on those of its parts
-/

namespace BuildSummary

/-! ## Lines that are left out -/

section Filter

variable {α : Type} {p keep : α → Bool}

/-- An element that is left out is passed over anyway. -/
theorem not_keep_or_eq (hkeep : ∀ x, p x = false → keep x = true) :
    (fun x => !keep x || p x) = p := by
  funext x
  cases hx : p x with
  | true => rw [Bool.or_true]
  | false => rw [hkeep x hx, Bool.or_false, Bool.not_true]

/-- Leaving out elements that are passed over anyway changes nothing of where to stop. -/
theorem takeWhile_filter_of_stop (hkeep : ∀ x, p x = false → keep x = true) (xs : List α) :
    (xs.filter keep).takeWhile p = (xs.takeWhile p).filter keep := by
  rw [List.takeWhile_filter, not_keep_or_eq hkeep]

theorem dropWhile_filter_of_stop (hkeep : ∀ x, p x = false → keep x = true) (xs : List α) :
    (xs.filter keep).dropWhile p = (xs.dropWhile p).filter keep := by
  rw [List.dropWhile_filter, not_keep_or_eq hkeep]

/-- The element at which to stop is kept. -/
theorem keep_of_dropWhile_eq_cons (hkeep : ∀ x, p x = false → keep x = true) {x : α}
    {xs after : List α} (h : xs.dropWhile p = x :: after) : keep x = true := by
  refine hkeep x ?_
  have hhead := List.head?_dropWhile_not p xs
  rwa [h] at hhead

/-- Leaving out elements that are not chosen anyway changes nothing of the choice. -/
theorem filter_filter_of_chosen (hkeep : ∀ x, p x = true → keep x = true) (xs : List α) :
    (xs.filter keep).filter p = xs.filter p := by
  rw [List.filter_filter]
  refine List.filter_congr fun x _ => ?_
  cases hx : p x with
  | true => rw [hkeep x hx, Bool.true_and]
  | false => rw [Bool.false_and]

end Filter

variable {phase : Phase} {keep : Text → Bool} {log other : List Text}

/-! ## Phases -/

namespace Phase

/-- Whether the line opens or closes the phase. -/
def reads (phase : Phase) (line : Text) : Bool :=
  phase.opens line || phase.closes line

/-- Whether the line opens or closes the phase, or is an item of it. -/
def readsItems (phase : Phase) (item line : Text) : Bool :=
  phase.reads line || item.occursIn line

theorem keep_of_not_opens (hkeep : ∀ line, phase.reads line = true → keep line = true)
    (line : Text) (h : (!phase.opens line) = false) : keep line = true := by
  refine hkeep line ?_
  rw [Bool.not_eq_false'] at h
  rw [reads, h, Bool.true_or]

theorem keep_of_not_closes (hkeep : ∀ line, phase.reads line = true → keep line = true)
    (line : Text) (h : (!phase.closes line) = false) : keep line = true := by
  refine hkeep line ?_
  rw [Bool.not_eq_false'] at h
  rw [reads, h, Bool.or_true]

theorem Begins.filter {before rest : List Text} (h : phase.Begins log before rest)
    (hkeep : ∀ line, phase.reads line = true → keep line = true) :
    phase.Begins (log.filter keep) (before.filter keep) (rest.filter keep) := by
  obtain ⟨rfl, hbefore, first, hfirst, hopen⟩ := h
  refine ⟨List.filter_append .., fun line hline => hbefore line (List.mem_filter.mp hline).1,
    first, ?_, hopen⟩
  obtain ⟨tail, rfl⟩ := List.head?_eq_some_iff.mp hfirst
  rw [List.filter_cons_of_pos (keep_of_not_opens hkeep first (by rw [hopen]; rfl))]
  rfl

theorem window?_filter_eq_none (h : phase.window? log = none) (keep : Text → Bool) :
    phase.window? (log.filter keep) = none := by
  rw [window?_eq_none_iff] at h ⊢
  exact fun line hline => h line (List.mem_filter.mp hline).1

/-- **The window of a phase when lines are left out** that neither open nor close it. -/
theorem window?_filter_eq_some {window : Window} (h : phase.window? log = some window)
    (hkeep : ∀ line, phase.reads line = true → keep line = true) :
    ∃ offset, phase.window? (log.filter keep) =
      some ⟨offset, window.lines.filter keep, window.isClosed⟩ := by
  obtain ⟨before, rest, hbegins⟩ := exists_begins_of_window?_eq_some h
  obtain rfl := Option.some.inj (hbegins.window?.symm.trans h)
  refine ⟨(before.filter keep).length, ?_⟩
  have hclosing := keep_of_not_closes hkeep
  -- the closing line is kept, so the window ends with it in both logs
  have hlast : ((rest.filter keep).dropWhile (!phase.closes ·)).take 1 =
      ((rest.dropWhile (!phase.closes ·)).take 1).filter keep := by
    rw [dropWhile_filter_of_stop hclosing]
    cases hdrop : rest.dropWhile (!phase.closes ·) with
    | nil => rfl
    | cons last after => simp [keep_of_dropWhile_eq_cons hclosing hdrop]
  -- and no closing line is left out
  have hany : (rest.filter keep).any phase.closes = rest.any phase.closes := by
    rw [List.any_filter]
    congr 1
    funext line
    cases hcloses : phase.closes line with
    | true => rw [hclosing line (by rw [hcloses]; rfl), Bool.true_and]
    | false => rw [Bool.and_false]
  rw [(hbegins.filter hkeep).window?, takeWhile_filter_of_stop hclosing, hlast, hany,
    List.filter_append]

/-- What became of a phase depends on the lines that open or close it. -/
theorem status_filter (hkeep : ∀ line, phase.reads line = true → keep line = true)
    (log : List Text) : phase.status (log.filter keep) = phase.status log := by
  rw [status_eq, status_eq]
  cases hwindow : phase.window? log with
  | none => rw [window?_filter_eq_none hwindow]
  | some window =>
    obtain ⟨offset, hfilter⟩ := window?_filter_eq_some hwindow hkeep
    rw [hfilter]

/-- The changed files depend on the lines that open or close their phase or list a file. -/
theorem changedFiles_filter (phase : Phase) (item : Text) (log : List Text) :
    phase.changedFiles item (log.filter (phase.readsItems item)) = phase.changedFiles item log := by
  -- all on which the reading turns is kept: an opening, an item, and what stops it
  have hkeep (line : Text) (h : phase.reads line = true) : phase.readsItems item line = true := by
    rw [readsItems, h, Bool.true_or]
  have hitem (line : Text) (h : item.occursIn line = true) :
      phase.readsItems item line = true := by
    rw [readsItems, h, Bool.or_true]
  have hstop (line : Text) (h : (item.occursIn line || !phase.closes line) = false) :
      phase.readsItems item line = true :=
    keep_of_not_closes hkeep line (Bool.or_eq_false_iff.mp h).2
  have hdrop : ((log.filter (phase.readsItems item)).dropWhile (!phase.opens ·)).drop 1 =
      ((log.dropWhile (!phase.opens ·)).drop 1).filter (phase.readsItems item) := by
    rw [dropWhile_filter_of_stop (keep_of_not_opens hkeep)]
    cases hrest : log.dropWhile (!phase.opens ·) with
    | nil => rfl
    | cons first rest => simp [keep_of_dropWhile_eq_cons (keep_of_not_opens hkeep) hrest]
  rw [changedFiles_eq, changedFiles_eq]
  rw [status_filter hkeep, hdrop, takeWhile_filter_of_stop hstop, filter_filter_of_chosen hitem]

end Phase

/-! ## Checkers -/

namespace Checker

/-- Whether the line opens or closes a run of the checker, or is an item of it. -/
def reads (checker : Checker) (line : Text) : Bool :=
  checker.run.readsItems checker.item line

/-- A line that a checker is not read from changes nothing. -/
theorem scan_of_not_reads {checker : Checker} {line : Text} (h : checker.reads line = false)
    (progress : Progress) : checker.scan progress line = progress := by
  simp only [reads, Phase.readsItems, Phase.reads, Bool.or_eq_false_iff] at h
  obtain ⟨⟨hopens, hcloses⟩, hitem⟩ := h
  unfold scan
  cases progress.file <;> simp [hopens, hcloses, hitem]

/-- The findings of a checker depend on the lines that open or close a run or are items. -/
theorem findings?_filter (checker : Checker) (log : List Text) :
    checker.findings? (log.filter checker.reads) = checker.findings? log := by
  -- a scan of the kept lines is one of all lines in which the others are passed over
  have hscan : (fun progress line =>
      if checker.reads line = true then checker.scan progress line else progress) =
        checker.scan := by
    funext progress line
    split
    · rfl
    · rename_i h
      exact (scan_of_not_reads (by simpa using h) progress).symm
  unfold findings?
  rw [List.foldl_filter, hscan]

end Checker

/-! ## The compilation -/

namespace Compilation

/-- Whether the line opens or closes the phase, or is a diagnostic. -/
def reads (phase : Phase) (line : Text) : Bool :=
  phase.reads line || Severity.error.tag.occursIn line || Severity.warning.tag.occursIn line

/-- What is known of a compilation depends on the lines that open or close it and on the
diagnostics. -/
theorem ofLog_filter (phase : Phase) (log : List Text) :
    ofLog phase (log.filter (reads phase)) = ofLog phase log := by
  have hkeep (line : Text) (h : phase.reads line = true) : reads phase line = true := by
    rw [reads, h, Bool.true_or, Bool.true_or]
  have hdiagnostics (severity : Severity) (lines : List Text) :
      diagnostics severity (lines.filter (reads phase)) = diagnostics severity lines := by
    refine filter_filter_of_chosen (fun line h => ?_) lines
    cases severity with
    | error => rw [reads, h, Bool.or_true, Bool.true_or]
    | warning => rw [reads, h, Bool.or_true]
  rw [ofLog_eq, ofLog_eq]
  cases hwindow : phase.window? log with
  | none => rw [Phase.window?_filter_eq_none hwindow]
  | some window =>
    obtain ⟨offset, hfilter⟩ := Phase.window?_filter_eq_some hwindow hkeep
    simp only [hfilter, hdiagnostics]

end Compilation

/-! ## The tests -/

/-- What an error tells but for the number of the line. -/
def MalformedCount.unnumbered (e : MalformedCount) : TestCount × Text :=
  (e.count, e.line)

theorem mapError_bind {ε ε' α β : Type} (x : Except ε α) (f : α → Except ε β) (g : ε → ε') :
    (x >>= f).mapError g = x.mapError g >>= fun a => (f a).mapError g := by
  cases x <;> rfl

/-- Steps that are alike but for what they read and for what their errors tell, one after the
other. -/
theorem mapError_foldlM {σ α β ε ε' : Type} {step : σ → α → Except ε σ}
    {step' : σ → β → Except ε' σ} {f : α → β} {g : ε → ε'}
    (h : ∀ state a, (step state a).mapError g = step' state (f a)) (state : σ) (as : List α) :
    (as.foldlM step state).mapError g = (as.map f).foldlM step' state := by
  -- each step goes on from where those before it came, so the state is generalized
  induction as generalizing state with
  | nil => rfl
  | cons first rest ih => simp only [List.foldlM_cons, List.map_cons, mapError_bind, h, ih]

namespace TestRun

/-- Whether the line opens or closes the phase, is the banner, or carries the label of a count. -/
def reads (phase : Phase) (line : Text) : Bool :=
  phase.reads line || Text.trim line = banner || TestCount.total.label.occursIn line ||
    TestCount.failed.label.occursIn line

/-- The counts after one more line of the summary, whatever its number. -/
def readText (run : TestRun) (line : Text) : Except (TestCount × Text) TestRun :=
  (run.readLine (line, 0)).mapError MalformedCount.unnumbered

/-- The number of a line matters only to the number that an error tells. -/
theorem mapError_readLine (run : TestRun) (numbered : Text × Nat) :
    (run.readLine numbered).mapError MalformedCount.unnumbered = run.readText numbered.1 := by
  have hcount (count : TestCount) (current : Option Nat) (number : Nat) :
      (readCount count current numbered.1 number).mapError MalformedCount.unnumbered =
        (readCount count current numbered.1 0).mapError MalformedCount.unnumbered := by
    unfold readCount
    split
    · split <;> rfl
    · rfl
  unfold readText readLine
  simp only [mapError_bind, hcount]

theorem mapError_foldlM_readLine (run : TestRun) (numbered : List (Text × Nat)) :
    (numbered.foldlM readLine run).mapError MalformedCount.unnumbered =
      (numbered.map (·.1)).foldlM readText run :=
  mapError_foldlM mapError_readLine run numbered

theorem readText_of_not_reads {line : Text} (h : reads phase line = false) (run : TestRun) :
    run.readText line = .ok run := by
  simp only [reads, Bool.or_eq_false_iff] at h
  obtain ⟨⟨-, htotal⟩, hfailed⟩ := h
  unfold readText readLine readCount
  simp only [htotal, hfailed]
  rfl

/-- What a log tells of the tests, but for the number of a line that cannot be read, comes from the
summary of their window. -/
theorem mapError_ofLog {window : Window} (h : phase.window? log = some window) :
    (ofLog phase log).mapError MalformedCount.unnumbered = (do
      let run ← (summary window.lines).foldlM readText {}
      return { run with
        status := .ofSuccess (window.isClosed && run.failed = some 0) }) := by
  simp only [ofLog_eq, h, mapError_bind, mapError_foldlM_readLine, map_summaryLines]
  rfl

/-- What is known of the tests depends on the lines that open or close their phase, the banner, and
the lines with the label of a count; and so does an error, but for the number of its line. -/
theorem ofLog_filter (phase : Phase) (log : List Text) :
    (ofLog phase (log.filter (reads phase))).mapError MalformedCount.unnumbered =
      (ofLog phase log).mapError MalformedCount.unnumbered := by
  have hkeep (line : Text) (h : phase.reads line = true) : reads phase line = true := by
    simp only [reads, h, Bool.true_or]
  have hbanner (line : Text) (h : decide (Text.trim line ≠ banner) = false) :
      reads phase line = true := by
    simp only [ne_eq, decide_not, Bool.not_eq_false'] at h
    simp only [reads, h, Bool.or_true, Bool.true_or]
  have hread : (fun run line => if reads phase line = true then readText run line else pure run) =
      readText := by
    funext run line
    split
    · rfl
    · rename_i h
      exact (readText_of_not_reads (by simpa using h) run).symm
  cases hwindow : phase.window? log with
  | none =>
    rw [ofLog_eq, ofLog_eq, hwindow, Phase.window?_filter_eq_none hwindow]
  -- the summary begins at the banner, which is kept, and only lines with a label count in it
  | some window =>
    obtain ⟨offset, hfilter⟩ := Phase.window?_filter_eq_some hwindow hkeep
    rw [mapError_ofLog hwindow, mapError_ofLog hfilter]
    unfold summary
    rw [dropWhile_filter_of_stop hbanner, List.foldlM_filter, hread]

end TestRun

/-! ## The whole record -/

/-- The two logs have the same lines among those that are read, in the same order. -/
def AgreeOn (reads : Text → Bool) (log other : List Text) : Prop :=
  log.filter reads = other.filter reads

/-- What is read from some lines only is the same for two logs that agree on them. -/
theorem AgreeOn.eq {α : Type} {reads : Text → Bool} (read : List Text → α)
    (h : AgreeOn reads log other) (hread : ∀ log, read (log.filter reads) = read log) :
    read log = read other := by
  rw [← hread log, h, hread]

theorem any_filter_self (p : Text → Bool) (log : List Text) : (log.filter p).any p = log.any p := by
  rw [List.any_filter]
  simp

namespace BuildRecord

/-- The two logs agree on the lines that each part of a record is read from. -/
structure SameEvidence (log other : List Text) : Prop where
  changedFiles : AgreeOn (Phase.changes.readsItems changedFileItem) log other
  veraSetup : AgreeOn Phase.veraSetup.reads log other
  cppcheckSetup : AgreeOn Phase.cppcheckSetup.reads log other
  clangFormatSetup : AgreeOn Phase.clangFormatSetup.reads log other
  vera : AgreeOn Checker.vera.reads log other
  cppcheck : AgreeOn Checker.cppcheck.reads log other
  clangFormat : AgreeOn Checker.clangFormat.reads log other
  pep8 : AgreeOn Checker.pep8.reads log other
  configuration : AgreeOn Phase.configuration.reads log other
  compilation : AgreeOn (Compilation.reads .compilation) log other
  installation : AgreeOn Phase.installation.reads log other
  tests : AgreeOn (TestRun.reads .testing) log other
  isUploaded : AgreeOn uploadSkipped.occursIn log other

theorem assemble_eq_of_sameEvidence (h : SameEvidence log other) (tests : TestRun) :
    assemble log tests = assemble other tests := by
  have hphase {phase : Phase} (h : AgreeOn phase.reads log other) :
      phase.status log = phase.status other :=
    h.eq phase.status (Phase.status_filter fun _ => id)
  have hchecker {checker : Checker} (h : AgreeOn checker.reads log other) :
      checker.findings? log = checker.findings? other :=
    h.eq checker.findings? checker.findings?_filter
  have hchanges : Phase.changes.changedFiles changedFileItem log =
      Phase.changes.changedFiles changedFileItem other :=
    h.changedFiles.eq _ (Phase.changes.changedFiles_filter changedFileItem)
  have hcompilation : Compilation.ofLog .compilation log = Compilation.ofLog .compilation other :=
    h.compilation.eq _ (Compilation.ofLog_filter .compilation)
  have hupload : log.any uploadSkipped.occursIn = other.any uploadSkipped.occursIn :=
    h.isUploaded.eq (fun log => log.any uploadSkipped.occursIn) (any_filter_self _)
  unfold assemble
  rw [hchanges, hphase h.veraSetup, hphase h.cppcheckSetup, hphase h.clangFormatSetup,
    hchecker h.vera, hchecker h.cppcheck, hchecker h.clangFormat, hchecker h.pep8,
    hphase h.configuration, hcompilation, hphase h.installation, hupload]

/-- **Each part of a record depends on its own lines only**: leaving out all others changes nothing
but the number of the line that an error tells. So two logs with the same lines for each part tell
the same record, or the same error but for that number. -/
theorem parts_filter_reads (log : List Text) :
    (∀ phase : Phase, phase.status (log.filter phase.reads) = phase.status log) ∧
      (∀ (phase : Phase) (item : Text),
        phase.changedFiles item (log.filter (phase.readsItems item)) =
          phase.changedFiles item log) ∧
      (∀ checker : Checker,
        checker.findings? (log.filter checker.reads) = checker.findings? log) ∧
      (∀ phase : Phase,
        Compilation.ofLog phase (log.filter (Compilation.reads phase)) =
          Compilation.ofLog phase log) ∧
      (∀ phase : Phase,
        (TestRun.ofLog phase (log.filter (TestRun.reads phase))).mapError
            MalformedCount.unnumbered =
          (TestRun.ofLog phase log).mapError MalformedCount.unnumbered) ∧
      ∀ other, SameEvidence log other →
        (ofLog log).mapError MalformedCount.unnumbered =
          (ofLog other).mapError MalformedCount.unnumbered := by
  refine ⟨fun phase => Phase.status_filter (fun _ => id) log,
    fun phase item => phase.changedFiles_filter item log,
    fun checker => checker.findings?_filter log, fun phase => Compilation.ofLog_filter phase log,
    fun phase => TestRun.ofLog_filter phase log, fun other h => ?_⟩
  have htests : (TestRun.ofLog .testing log).mapError MalformedCount.unnumbered =
      (TestRun.ofLog .testing other).mapError MalformedCount.unnumbered :=
    h.tests.eq (fun log => (TestRun.ofLog .testing log).mapError MalformedCount.unnumbered)
      (TestRun.ofLog_filter .testing)
  unfold ofLog
  rw [mapError_bind, mapError_bind, htests, funext (assemble_eq_of_sameEvidence h)]

/-- A run of VERA++ and the compilation, one after the other and interleaved. -/
theorem parts_filter_reads_interleaved :
    ∃ log other, log ≠ other ∧ SameEvidence log other ∧
      (ofLog log).mapError MalformedCount.unnumbered =
        (ofLog other).mapError MalformedCount.unnumbered := by
  let begins : Text := "MSGBLD0130: a.cpp"
  let item : Text := "MSGBLD0135: unused"
  let ends : Text := "MSGBLD0140"
  let making : Text := "MSGBLD0250"
  let diagnostic : Text := "a.cpp: error: x"
  let made : Text := "MSGBLD0260"
  let log := [begins, item, ends, making, diagnostic, made]
  let other := [making, begins, diagnostic, item, made, ends]
  have hsame : SameEvidence log other := by
    constructor <;> unfold AgreeOn <;> decide
  exact ⟨log, other, by decide, hsame, (parts_filter_reads log).2.2.2.2.2 other hsame⟩

end BuildRecord

end BuildSummary
