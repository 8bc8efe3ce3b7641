import Mathlib.Data.List.TakeWhile
import BuildSummary.Checker

/-!
# Runs of a checker

A log is cut into the runs of a checker: a run begins after a line with the opening marker, whose
last word is the analysed file, and ends before the first line that carries the closing marker and
no item; the search for the next run goes on after that line. What a checker found in a file is what
its last run on the file reported.

## Main definitions

* `Run`: a file and the lines that belong to it
* `Checker.runs`: the runs in a log
* `Checker.messagesIn`: the messages among some lines
* `Findings.ofRuns`: the findings of runs whose lines are messages
* `IsLastRun`: no later run is on the same file

## Main results

* `Checker.findings?_eq`: the scanner computes the findings of the runs
* `Findings.contains_ofRuns`, `Findings.count_ofRuns`: the files are those of the runs, and a
  message counts as often as it occurs in the last run on the file
* `Checker.totalOf_findings?_eq_zero_iff`: when a checker found nothing
-/

namespace BuildSummary

/-- A run of a checker: the file that it analyses and the lines that belong to it. -/
structure Run where
  /-- The file. -/
  file : Text
  /-- The lines. -/
  lines : List Text
  deriving DecidableEq

/-- The run is one of the runs and no later one is on the same file. -/
def IsLastRun (runs : List Run) (run : Run) : Prop :=
  ∃ before after, runs = before ++ run :: after ∧ ∀ later ∈ after, later.file ≠ run.file

/-- Of the runs on a file, one is the last. -/
theorem exists_isLastRun {runs : List Run} {file : Text} (h : ∃ run ∈ runs, run.file = file) :
    ∃ last, IsLastRun runs last ∧ last.file = file := by
  induction runs with
  | nil => simp at h
  | cons first rest ih =>
    -- a later run on the file comes first; without one, this run is the last
    by_cases hrest : ∃ run ∈ rest, run.file = file
    · obtain ⟨last, ⟨before, after, rfl, hafter⟩, hfile⟩ := ih hrest
      exact ⟨last, ⟨first :: before, after, rfl, hafter⟩, hfile⟩
    · have hfirst : first.file = file := by
        obtain ⟨run, hrun, hfile⟩ := h
        rcases List.mem_cons.mp hrun with rfl | hrun
        · exact hfile
        · exact absurd ⟨run, hrun, hfile⟩ hrest
      refine ⟨first, ⟨[], rest, rfl, fun later hlater hfile => ?_⟩, hfirst⟩
      exact hrest ⟨later, hlater, hfile.trans hfirst⟩

theorem isLastRun_map_iff {read : Run → Run} (hread : ∀ run, (read run).file = run.file)
    {runs : List Run} {run : Run} :
    IsLastRun (runs.map read) run ↔ ∃ raw, IsLastRun runs raw ∧ read raw = run := by
  constructor
  · rintro ⟨before, after, hruns, hafter⟩
    obtain ⟨before, rest, rfl, rfl, hrest⟩ := List.map_eq_append_iff.mp hruns
    obtain ⟨raw, after, rfl, rfl, rfl⟩ := List.map_eq_cons_iff.mp hrest
    refine ⟨raw, ⟨before, after, rfl, fun later hlater => ?_⟩, rfl⟩
    rw [← hread later, ← hread raw]
    exact hafter _ (List.mem_map_of_mem hlater)
  · rintro ⟨raw, ⟨before, after, rfl, hafter⟩, rfl⟩
    refine ⟨before.map read, after.map read, by simp, fun later hlater => ?_⟩
    obtain ⟨later, hmem, rfl⟩ := List.mem_map.mp hlater
    rw [hread, hread]
    exact hafter later hmem

/-! ## The findings of runs -/

namespace Findings

/-- A run whose lines are messages: they are all that is found in its file. -/
def addRun (findings : Findings) (run : Run) : Findings :=
  findings.insert run.file (.tally run.lines)

/-- The findings of runs whose lines are messages. -/
def ofRuns (runs : List Run) : Findings :=
  runs.foldl addRun ∅

theorem contains_addRun (findings : Findings) (run : Run) (f : Text) :
    (findings.addRun run).contains f = (f = run.file || findings.contains f) :=
  Index.contains_insert findings run.file f _

theorem count_addRun (findings : Findings) (run : Run) (f m : Text) :
    (findings.addRun run).count f m =
      if f = run.file then run.lines.count m else findings.count f m := by
  unfold count addRun
  rw [Index.get?_insert]
  by_cases hf : f = run.file
  · rw [if_pos hf, if_pos hf, Option.getD_some, Index.get?_tally]
    by_cases hm : m ∈ run.lines
    · simp [hm]
    · simp [hm, List.count_eq_zero_of_not_mem hm]
  · rw [if_neg hf, if_neg hf]

/-- The files of the findings are those of the runs. -/
theorem contains_foldl_addRun (findings : Findings) (runs : List Run) (f : Text) :
    (runs.foldl addRun findings).contains f = true ↔
      (∃ run ∈ runs, run.file = f) ∨ findings.contains f = true := by
  induction runs generalizing findings with
  | nil => simp
  | cons run rest ih =>
    rw [List.foldl_cons, ih, contains_addRun, Bool.or_eq_true, decide_eq_true_eq, ← or_assoc]
    refine or_congr_left ?_
    simp [eq_comm, or_comm]

theorem contains_ofRuns {runs : List Run} {file : Text} :
    (ofRuns runs).contains file = true ↔ ∃ run ∈ runs, run.file = file := by
  rw [ofRuns, contains_foldl_addRun]
  simp [Index.contains]

/-- Runs on other files change nothing. -/
theorem count_foldl_addRun_of_ne (findings : Findings) {runs : List Run} {f : Text}
    (h : ∀ run ∈ runs, run.file ≠ f) (m : Text) :
    (runs.foldl addRun findings).count f m = findings.count f m := by
  induction runs generalizing findings with
  | nil => rfl
  | cons run rest ih =>
    rw [List.foldl_cons, ih _ fun r hr => h r (List.mem_cons_of_mem _ hr), count_addRun,
      if_neg (Ne.symm (h run List.mem_cons_self))]

/-- **What was found in a file** is what the last run on it reported. -/
theorem count_ofRuns {runs : List Run} {run : Run} (h : IsLastRun runs run) (m : Text) :
    (ofRuns runs).count run.file m = run.lines.count m := by
  obtain ⟨before, after, rfl, hafter⟩ := h
  rw [ofRuns, List.foldl_append, List.foldl_cons, count_foldl_addRun_of_ne _ hafter, count_addRun,
    if_pos rfl]

theorem count_ofRuns_of_forall_ne {runs : List Run} {f : Text} (h : ∀ run ∈ runs, run.file ≠ f)
    (m : Text) : (ofRuns runs).count f m = 0 :=
  count_foldl_addRun_of_ne ∅ h m

/-- Runs have no findings if and only if no last run has a line. -/
theorem total_ofRuns_eq_zero_iff {runs : List Run} :
    (ofRuns runs).total = 0 ↔ ∀ run, IsLastRun runs run → run.lines = [] := by
  rw [total_eq_zero_iff]
  constructor
  · intro h run hrun
    refine List.eq_nil_iff_forall_not_mem.mpr fun m hm => ?_
    have hcount := h run.file m
    rw [count_ofRuns hrun, List.count_eq_zero] at hcount
    exact hcount hm
  · intro h file m
    by_cases hfile : ∃ run ∈ runs, run.file = file
    · obtain ⟨last, hlast, rfl⟩ := exists_isLastRun hfile
      rw [count_ofRuns hlast, h last hlast, List.count_nil]
    · refine count_ofRuns_of_forall_ne (fun run hrun hf => hfile ⟨run, hrun, hf⟩) m

end Findings

/-! ## The runs in a log -/

namespace Checker

/-- Whether the line ends a run: it carries the closing marker and no item. -/
def endsRun (checker : Checker) (line : Text) : Bool :=
  !checker.item.occursIn line && checker.run.closes line

/-- The runs of a checker in a log. -/
def runs (checker : Checker) : List Text → List Run
  | [] => []
  | line :: rest =>
    if checker.run.opens line then
      ⟨Text.lastWord line, rest.takeWhile (!checker.endsRun ·)⟩ ::
        checker.runs ((rest.dropWhile (!checker.endsRun ·)).drop 1)
    else checker.runs rest
termination_by log => log.length
decreasing_by
  · have := (List.dropWhile_suffix (!checker.endsRun ·) (l := rest)).length_le
    simp; omega
  · simp

/-! ### The next run -/

section NextRun

variable {checker : Checker} {line last : Text} {inside after rest : List Text}

theorem runs_cons_of_not_opens (h : checker.run.opens line = false) :
    checker.runs (line :: rest) = checker.runs rest := by
  rw [runs, if_neg (by simp [h])]

/-- What comes before the first opening holds no run. -/
theorem runs_append_of_not_opens {before : List Text}
    (h : ∀ line ∈ before, checker.run.opens line = false) :
    checker.runs (before ++ rest) = checker.runs rest := by
  induction before with
  | nil => rfl
  | cons line before ih =>
    rw [List.forall_mem_cons] at h
    rw [List.cons_append, runs_cons_of_not_opens h.1, ih h.2]

/-- A run that is closed, and the search after it. -/
theorem runs_cons_append (hopen : checker.run.opens line = true)
    (hinside : ∀ l ∈ inside, checker.endsRun l = false) (hlast : checker.endsRun last = true) :
    checker.runs (line :: (inside ++ last :: after)) =
      ⟨Text.lastWord line, inside⟩ :: checker.runs after := by
  have hnot : ∀ l ∈ inside, (!checker.endsRun l) = true := by simpa using hinside
  rw [runs, if_pos hopen, List.takeWhile_append_of_pos hnot, List.dropWhile_append_of_pos hnot]
  simp [hlast]

/-- A run that is not closed takes the rest of the log. -/
theorem runs_cons_of_forall (hopen : checker.run.opens line = true)
    (hrest : ∀ l ∈ rest, checker.endsRun l = false) :
    checker.runs (line :: rest) = [⟨Text.lastWord line, rest⟩] := by
  have hnot : ∀ l ∈ rest, (!checker.endsRun l) = true := by simpa using hrest
  have htake := List.takeWhile_eq_self_iff.mpr hnot
  have hdrop := List.dropWhile_eq_nil_iff.mpr hnot
  rw [runs, if_pos hopen, htake, hdrop, List.drop_nil, runs]

/-- **Cutting off the next run.** What holds of a log without a run, of what follows a line that
opens none, and of what follows a run, holds of the log. -/
theorem runs_induction (checker : Checker) {motive : List Text → Prop} (nil : motive [])
    (skip : ∀ line rest, checker.run.opens line = false → motive rest → motive (line :: rest))
    (closed : ∀ line inside last after, checker.run.opens line = true →
      (∀ l ∈ inside, checker.endsRun l = false) → checker.endsRun last = true → motive after →
      motive (line :: (inside ++ last :: after)))
    (unclosed : ∀ line rest, checker.run.opens line = true →
      (∀ l ∈ rest, checker.endsRun l = false) → motive (line :: rest))
    (log : List Text) : motive log := by
  match log with
  | [] => exact nil
  | line :: rest =>
    cases hopen : checker.run.opens line with
    | false =>
      exact skip line rest hopen (runs_induction checker nil skip closed unclosed rest)
    | true =>
      -- the run is closed at the first line that ends it
      match hlast : rest.find? checker.endsRun with
      | some last =>
        obtain ⟨hends, inside, after, hrest, hinside⟩ := List.find?_eq_some_iff_append.mp hlast
        subst hrest
        exact closed line inside last after hopen (by simpa using hinside) hends
          (runs_induction checker nil skip closed unclosed after)
      | none => exact unclosed line rest hopen (by simpa using hlast)
termination_by log.length

end NextRun

/-- The messages on the item lines among some lines, noise left out. -/
def messagesIn (checker : Checker) (lines : List Text) : List Text :=
  (lines.filter checker.item.occursIn).filterMap checker.message?

/-- A run with its messages in place of its lines. -/
def readRun (checker : Checker) (run : Run) : Run :=
  { run with lines := checker.messagesIn run.lines }

/-- The messages of a checker in a log, run by run. -/
def readRuns (checker : Checker) (log : List Text) : List Run :=
  (checker.runs log).map checker.readRun

/-! ## Scanning a log run by run -/

variable {checker : Checker}

/-- Inside a run, the messages are counted and the run goes on. -/
theorem foldl_scan_inside (findings : Findings) (file : Text) (counts : Index Nat)
    {lines : List Text} (h : ∀ line ∈ lines, checker.endsRun line = false) :
    lines.foldl checker.scan ⟨some (findings.insert file counts), some file⟩ =
      ⟨some (findings.insert file ((checker.messagesIn lines).foldl Index.increment counts)),
        some file⟩ := by
  induction lines generalizing counts with
  | nil => rfl
  | cons line rest ih =>
    rw [List.forall_mem_cons] at h
    rw [List.foldl_cons]
    -- an item is read before a closing is looked for, so the cases follow the item
    cases hitem : checker.item.occursIn line with
    | true =>
      cases hmessage : checker.message? line with
      | some message =>
        simpa [scan, messagesIn, hitem, hmessage, Findings.add_insert] using
          ih (counts.increment message) h.2
      | none => simpa [scan, messagesIn, hitem, hmessage] using ih counts h.2
    | false =>
      have hcloses : checker.run.closes line = false := by simpa [endsRun, hitem] using h.1
      simpa [scan, messagesIn, hitem, hcloses] using ih counts h.2

/-- The line that ends a run only ends it. -/
theorem scan_endsRun (findings : Option Findings) (file : Text) {line : Text}
    (h : checker.endsRun line = true) :
    checker.scan ⟨findings, some file⟩ line = ⟨findings, none⟩ := by
  simp only [endsRun, Bool.and_eq_true, Bool.not_eq_true'] at h
  simp [scan, h]

/-- A line that opens a run begins the file that it names. -/
theorem scan_opens (findings : Option Findings) {line : Text}
    (h : checker.run.opens line = true) :
    checker.scan ⟨findings, none⟩ line =
      ⟨some ((findings.getD ∅).insert (Text.lastWord line) ∅), some (Text.lastWord line)⟩ := by
  simp [scan, h, Findings.begin]

/-- **The scanner reads a log run by run.** -/
theorem findings_foldl_scan (findings : Option Findings) (log : List Text) :
    (log.foldl checker.scan ⟨findings, none⟩).findings =
      if checker.runs log = [] then findings
      else some ((checker.readRuns log).foldl Findings.addRun (findings.getD ∅)) := by
  unfold readRuns
  -- the findings are generalized, since each run adds to those of the runs before it
  induction log using runs_induction checker generalizing findings with
  | nil => simp [runs]
  | skip line rest hopen ih =>
    rw [runs_cons_of_not_opens hopen, ← ih]
    simp [scan, hopen]
  | closed line inside last after hopen hinside hlast ih =>
    rw [runs_cons_append hopen hinside hlast, List.foldl_cons, scan_opens _ hopen,
      List.foldl_append, foldl_scan_inside _ _ _ hinside, List.foldl_cons, scan_endsRun _ _ hlast,
      ih]
    by_cases hnil : checker.runs after = [] <;> simp [hnil, Findings.addRun, readRun, Index.tally]
  | unclosed line rest hopen hrest =>
    rw [runs_cons_of_forall hopen hrest, List.foldl_cons, scan_opens _ hopen,
      foldl_scan_inside _ _ _ hrest]
    simp [Findings.addRun, readRun, Index.tally]

/-- **The findings of a checker** are those of its runs; there are none if it has no run. -/
theorem findings?_eq (checker : Checker) (log : List Text) :
    checker.findings? log =
      if checker.runs log = [] then none else some (Findings.ofRuns (checker.readRuns log)) :=
  findings_foldl_scan none log

/-! ## What a log says of a checker -/

variable {log : List Text}

/-- The checker has a run on the file. -/
def Analyses (checker : Checker) (log : List Text) (file : Text) : Prop :=
  ∃ run ∈ checker.runs log, run.file = file

theorem messagesIn_eq_nil_iff {lines : List Text} :
    checker.messagesIn lines = [] ↔
      ∀ line ∈ lines, checker.item.occursIn line = true → checker.message? line = none := by
  simp [messagesIn]

/-- A checker has no findings at all, not even an empty table, if and only if it has no run. -/
theorem findings?_eq_none_iff : checker.findings? log = none ↔ checker.runs log = [] := by
  rw [findings?_eq]
  split <;> simp_all

/-- The files of the findings are the analysed ones. -/
theorem contains_of_findings?_eq_some {findings : Findings}
    (h : checker.findings? log = some findings) (file : Text) :
    findings.contains file = true ↔ checker.Analyses log file := by
  rw [findings?_eq] at h
  split at h
  · cases h
  · cases h
    rw [Findings.contains_ofRuns, readRuns]
    constructor
    · rintro ⟨run, hrun, rfl⟩
      obtain ⟨raw, hraw, rfl⟩ := List.mem_map.mp hrun
      exact ⟨raw, hraw, rfl⟩
    · rintro ⟨raw, hraw, rfl⟩
      exact ⟨checker.readRun raw, List.mem_map_of_mem hraw, rfl⟩

/-- **A checker found nothing** if and only if no last run on a file has a message. -/
theorem totalOf_findings?_eq_zero_iff :
    Findings.totalOf (checker.findings? log) = 0 ↔
      ∀ run, IsLastRun (checker.runs log) run → checker.messagesIn run.lines = [] := by
  have hruns : Findings.totalOf (checker.findings? log) =
      (Findings.ofRuns (checker.readRuns log)).total := by
    rw [findings?_eq]
    split
    · rename_i hnil
      rw [readRuns, hnil]
      rfl
    · rfl
  have hread (run : Run) : (checker.readRun run).file = run.file := rfl
  rw [hruns, Findings.total_ofRuns_eq_zero_iff]
  unfold readRuns
  -- reading keeps the files, so the last runs are the same before and after it
  constructor
  · intro h run hrun
    exact h _ ((isLastRun_map_iff hread).mpr ⟨run, hrun, rfl⟩)
  · intro h run hrun
    obtain ⟨raw, hraw, rfl⟩ := (isLastRun_map_iff hread).mp hrun
    exact h raw hraw

end Checker

end BuildSummary
