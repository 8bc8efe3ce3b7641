import Mathlib.Data.Finset.Card
import BuildSummary.Proofs.Runs
import BuildSummary.Script

/-!
# The run that is open

A line that carries the opening marker of a checker opens a run only if no run is open before it; in
an open run it is one of the lines of that run. So a checker that breaks down before it prints its
closing marker goes on, for the reader of the log, until the next line that closes a run: the files
that are begun in between are not seen, and their messages are found in the file of the open run.

## Main definitions

* `Checker.Idle`, `Checker.RunningOn`: no run is open after some lines, or one on a file is
* `StandsAt`: a line stands at a position of a log, and it and the lines before it have a property
* `Checker.Opens`, `Checker.Reports`: a line opens a run on a file, or reports a message in one

## Main results

* `Checker.file_foldl_scan_eq_none_iff`, `Checker.file_foldl_scan_eq_some_iff`: the scanner knows
  which run is open
* `Checker.findings?_attributed`: the analysed files are those of the lines that open a run, and
  every message that is counted was reported in an open run on its file
* `Checker.not_forall_attributed_to_nearest`: an opening marker in an open run is not looked at
-/

namespace BuildSummary

/-! ## Positions in a log -/

/-- At the position stands a line that has the property after the lines before it. -/
def StandsAt (property : List Text → Text → Prop) (log : List Text) (i : Nat) : Prop :=
  ∃ line, log[i]? = some line ∧ property (log.take i) line

section StandsAt

variable {property : List Text → Text → Prop} {log : List Text} {i : Nat}

theorem StandsAt.lt_length (h : StandsAt property log i) : i < log.length := by
  obtain ⟨line, hline, -⟩ := h
  exact (List.getElem?_eq_some_iff.mp hline).1

/-- Positions of a log with one more line are the old ones and the last. -/
theorem standsAt_concat {line : Text} :
    StandsAt property (log ++ [line]) i ↔
      StandsAt property log i ∨ i = log.length ∧ property log line := by
  -- before the last line the log is the old one, and behind it there is no line
  rcases Nat.lt_trichotomy i log.length with hlt | rfl | hgt
  · have htake : (log ++ [line]).take i = log.take i := List.take_append_of_le_length hlt.le
    unfold StandsAt
    rw [List.getElem?_append_left hlt, htake]
    exact (or_iff_left fun h => hlt.ne h.1).symm
  · have hnot : ¬ StandsAt property log log.length := fun h => Nat.lt_irrefl _ h.lt_length
    rw [or_iff_right hnot, and_iff_right rfl]
    simp [StandsAt]
  · refine iff_of_false (fun h => ?_) ?_
    · have hlength := h.lt_length
      rw [List.length_append, List.length_singleton] at hlength
      omega
    · rintro (h | ⟨h, -⟩)
      · exact Nat.lt_asymm hgt h.lt_length
      · exact hgt.ne' h

theorem exists_standsAt_concat {line : Text} :
    (∃ i, StandsAt property (log ++ [line]) i) ↔
      (∃ i, StandsAt property log i) ∨ property log line := by
  constructor
  · rintro ⟨i, h⟩
    rcases standsAt_concat.mp h with h | ⟨-, h⟩
    · exact .inl ⟨i, h⟩
    · exact .inr h
  · rintro (⟨i, h⟩ | h)
    · exact ⟨i, standsAt_concat.mpr (.inl h)⟩
    · exact ⟨log.length, standsAt_concat.mpr (.inr ⟨rfl, h⟩)⟩

end StandsAt

namespace Checker

variable {checker : Checker} {log lines : List Text} {line file : Text} {progress : Progress}

/-! ## Open runs -/

/-- After the lines no run is open: they are lines that open no run, and runs that are closed. -/
inductive Idle (checker : Checker) : List Text → Prop
  | nil : Idle checker []
  | skip {lines : List Text} {line : Text} : Idle checker lines →
      checker.run.opens line = false → Idle checker (lines ++ [line])
  | closed {lines inside : List Text} {opening last : Text} : Idle checker lines →
      checker.run.opens opening = true → (∀ line ∈ inside, checker.endsRun line = false) →
      checker.endsRun last = true → Idle checker ((lines ++ opening :: inside) ++ [last])

/-- After the lines a run on the file is open: it was opened when no run was, and no line since then
ends it. -/
def RunningOn (checker : Checker) (file : Text) (lines : List Text) : Prop :=
  ∃ before opening inside, lines = before ++ opening :: inside ∧ checker.Idle before ∧
    checker.run.opens opening = true ∧ Text.lastWord opening = file ∧
      ∀ line ∈ inside, checker.endsRun line = false

theorem Idle.runningOn (h : checker.Idle lines) (hopens : checker.run.opens line = true) :
    checker.RunningOn (Text.lastWord line) (lines ++ [line]) :=
  ⟨lines, line, [], rfl, h, hopens, rfl, nofun⟩

theorem RunningOn.inside (h : checker.RunningOn file lines) (hline : checker.endsRun line = false) :
    checker.RunningOn file (lines ++ [line]) := by
  obtain ⟨before, opening, inside, rfl, hbefore, hopens, hfile, hinside⟩ := h
  refine ⟨before, opening, inside ++ [line], ?_, hbefore, hopens, hfile, ?_⟩
  · rw [List.append_assoc, List.cons_append]
  · rw [List.forall_mem_append, List.forall_mem_singleton]
    exact ⟨hinside, hline⟩

theorem RunningOn.idle (h : checker.RunningOn file lines) (hline : checker.endsRun line = true) :
    checker.Idle (lines ++ [line]) := by
  obtain ⟨before, opening, inside, rfl, hbefore, hopens, -, hinside⟩ := h
  exact .closed hbefore hopens hinside hline

/-! ## What the scanner knows of them -/

/-- What one line does to the open run. -/
theorem file_scan (checker : Checker) (progress : Progress) (line : Text) :
    (checker.scan progress line).file =
      match progress.file with
      | none => if checker.run.opens line then some (Text.lastWord line) else none
      | some file => if checker.endsRun line then none else some file := by
  unfold scan endsRun
  -- the scanner asks for the item first, and only a line without one may close the run
  cases hfile : progress.file with
  | none => cases checker.run.opens line <;> simp [hfile]
  | some file =>
    cases checker.item.occursIn line with
    | true => cases checker.message? line <;> simp [hfile]
    | false => cases checker.run.closes line <;> simp [hfile]

/-- **The scanner knows which run is open.** -/
theorem idle_or_runningOn (checker : Checker) (log : List Text) :
    (log.foldl checker.scan {}).file = none ∧ checker.Idle log ∨
      ∃ file, (log.foldl checker.scan {}).file = some file ∧ checker.RunningOn file log := by
  induction log using List.reverseRecOn with
  | nil => exact .inl ⟨rfl, .nil⟩
  | append_singleton log line ih =>
    rw [List.foldl_concat, file_scan]
    rcases ih with ⟨hfile, hidle⟩ | ⟨file, hfile, hrunning⟩
    · rw [hfile]
      cases hopens : checker.run.opens line with
      | true => exact .inr ⟨_, rfl, hidle.runningOn hopens⟩
      | false => exact .inl ⟨rfl, hidle.skip hopens⟩
    · rw [hfile]
      cases hends : checker.endsRun line with
      | true => exact .inl ⟨rfl, hrunning.idle hends⟩
      | false => exact .inr ⟨file, rfl, hrunning.inside hends⟩

/-- A line opens a run when none is open, and the lines that do not end it leave it open. -/
theorem file_foldl_scan_opened {before inside : List Text} {opening : Text}
    (hbefore : (before.foldl checker.scan {}).file = none)
    (hopens : checker.run.opens opening = true)
    (hinside : ∀ line ∈ inside, checker.endsRun line = false) :
    ((before ++ opening :: inside).foldl checker.scan {}).file = some (Text.lastWord opening) := by
  induction inside using List.reverseRecOn with
  | nil =>
    rw [List.foldl_concat, file_scan, hbefore]
    exact if_pos hopens
  | append_singleton inside line ih =>
    rw [List.forall_mem_append, List.forall_mem_singleton] at hinside
    rw [← List.cons_append, ← List.append_assoc, List.foldl_concat, file_scan, ih hinside.1]
    exact if_neg (by simp [hinside.2])

theorem Idle.file_foldl_scan (h : checker.Idle log) : (log.foldl checker.scan {}).file = none := by
  induction h with
  | nil => rfl
  | skip _ hopens ih =>
    rw [List.foldl_concat, file_scan, ih]
    exact if_neg (by simp [hopens])
  | closed _ hopens hinside hlast ih =>
    rw [List.foldl_concat, file_scan, file_foldl_scan_opened ih hopens hinside]
    exact if_pos hlast

theorem RunningOn.file_foldl_scan (h : checker.RunningOn file log) :
    (log.foldl checker.scan {}).file = some file := by
  obtain ⟨before, opening, inside, rfl, hbefore, hopens, rfl, hinside⟩ := h
  exact file_foldl_scan_opened hbefore.file_foldl_scan hopens hinside

theorem file_foldl_scan_eq_none_iff :
    (log.foldl checker.scan {}).file = none ↔ checker.Idle log := by
  refine ⟨fun h => ?_, Idle.file_foldl_scan⟩
  rcases idle_or_runningOn checker log with ⟨-, hidle⟩ | ⟨file, hfile, -⟩
  · exact hidle
  · rw [hfile] at h
    cases h

theorem file_foldl_scan_eq_some_iff :
    (log.foldl checker.scan {}).file = some file ↔ checker.RunningOn file log := by
  refine ⟨fun h => ?_, RunningOn.file_foldl_scan⟩
  rcases idle_or_runningOn checker log with ⟨hnone, -⟩ | ⟨other, hfile, hrunning⟩
  · rw [hnone] at h
    cases h
  · rw [hfile] at h
    exact Option.some.inj h ▸ hrunning

/-! ## Where findings come from -/

/-- A line that opens a run on the file. -/
def Opens (checker : Checker) (file : Text) (before : List Text) (line : Text) : Prop :=
  checker.Idle before ∧ checker.run.opens line = true ∧ Text.lastWord line = file

/-- A line that reports the message in an open run on the file. -/
def Reports (checker : Checker) (file message : Text) (before : List Text) (line : Text) : Prop :=
  checker.RunningOn file before ∧ checker.item.occursIn line = true ∧
    checker.message? line = some message

theorem RunningOn.not_idle (h : checker.RunningOn file lines) : ¬ checker.Idle lines := by
  intro hidle
  have hnone := hidle.file_foldl_scan
  rw [h.file_foldl_scan] at hnone
  cases hnone

/-- The run that is open was opened by one of the lines. -/
theorem RunningOn.exists_opens (h : checker.RunningOn file log) :
    ∃ i, StandsAt (checker.Opens file) log i := by
  obtain ⟨before, opening, inside, rfl, hbefore, hopens, hfile, -⟩ := h
  refine ⟨before.length, opening, ?_, ?_⟩
  · rw [List.getElem?_append_right (Nat.le_refl _), Nat.sub_self, List.getElem?_cons_zero]
  · rw [List.take_left]
    exact ⟨hbefore, hopens, hfile⟩

/-- **What one line adds to the findings**: it opens a run, or it reports a message, or it adds
nothing. -/
theorem findings_scan (checker : Checker) (log : List Text) (line : Text) :
    let progress := log.foldl checker.scan {}
    let findings := (checker.scan progress line).findings
    (∃ file, checker.Opens file log line ∧
        findings = some ((progress.findings.getD ∅).begin file)) ∨
      (∀ file, ¬ checker.Opens file log line) ∧
        ((∃ file message, checker.Reports file message log line ∧
          findings = some ((progress.findings.getD ∅).add file message)) ∨
        findings = progress.findings) := by
  intro progress findings
  rcases idle_or_runningOn checker log with ⟨hfile, hidle⟩ | ⟨file, hfile, hrunning⟩
  · cases hopens : checker.run.opens line with
    | true =>
      refine .inl ⟨_, ⟨hidle, hopens, rfl⟩, ?_⟩
      simp [findings, progress, scan, hfile, hopens]
    | false =>
      refine .inr ⟨?_, .inr ?_⟩
      · rintro file ⟨-, hopens', -⟩
        rw [hopens] at hopens'
        cases hopens'
      · simp [findings, progress, scan, hfile, hopens]
  -- in an open run, only an item with a message adds something
  · refine .inr ⟨fun other hopens => hrunning.not_idle hopens.1, ?_⟩
    cases hitem : checker.item.occursIn line with
    | false =>
      right
      cases hcloses : checker.run.closes line <;>
        simp [findings, progress, scan, hfile, hitem, hcloses]
    | true =>
      cases hmessage : checker.message? line with
      | none =>
        right
        simp [findings, progress, scan, hfile, hitem, hmessage]
      | some message =>
        refine .inl ⟨file, message, ⟨hrunning, hitem, hmessage⟩, ?_⟩
        simp [findings, progress, scan, hfile, hitem, hmessage]

/-- The files after some lines are those of the lines that open a run. -/
theorem mem_files_foldl_scan (checker : Checker) (log : List Text) (file : Text) :
    file ∈ ((log.foldl checker.scan {}).findings.getD ∅).files ↔
      ∃ i, StandsAt (checker.Opens file) log i := by
  rw [Findings.files, Index.mem_keys_iff]
  induction log using List.reverseRecOn with
  | nil =>
    refine iff_of_false Bool.false_ne_true ?_
    rintro ⟨i, h⟩
    exact Nat.not_lt_zero i h.lt_length
  | append_singleton log line ih =>
    rw [exists_standsAt_concat, ← ih, List.foldl_concat]
    rcases findings_scan checker log line with ⟨begun, hopens, h⟩ | ⟨hnot, h⟩
    · have hfile : checker.Opens file log line ↔ file = begun := by
        constructor
        · intro h
          exact h.2.2.symm.trans hopens.2.2
        · rintro rfl
          exact hopens
      rw [h, Option.getD_some, Findings.begin, Index.contains_insert, Bool.or_eq_true,
        decide_eq_true_eq, hfile, or_comm]
    -- no run is opened, so the line adds no file
    · rw [or_iff_left (hnot file)]
      rcases h with ⟨running, message, ⟨hrunning, -, -⟩, h⟩ | h
      -- the file of the message was there already, since its run was opened
      · rw [h, Option.getD_some, Findings.add, Index.contains_alter, Bool.or_eq_true,
          decide_eq_true_eq]
        refine or_iff_right_of_imp ?_
        rintro rfl
        exact ih.mpr hrunning.exists_opens
      · rw [h]

/-- Every message that is counted after some lines stands on a line of its own that reports it. -/
theorem exists_positions_foldl_scan (checker : Checker) (log : List Text) (file message : Text) :
    ∃ positions : Finset Nat,
      positions.card = ((log.foldl checker.scan {}).findings.getD ∅).count file message ∧
        ∀ i ∈ positions, StandsAt (checker.Reports file message) log i := by
  induction log using List.reverseRecOn with
  | nil => exact ⟨∅, rfl, by simp⟩
  | append_singleton log line ih =>
    obtain ⟨positions, hcard, hpositions⟩ := ih
    have hkept : ∀ i ∈ positions, StandsAt (checker.Reports file message) (log ++ [line]) i :=
      fun i hi => standsAt_concat.mpr (.inl (hpositions i hi))
    rw [List.foldl_concat]
    rcases findings_scan checker log line with
      ⟨begun, -, h⟩ | ⟨-, ⟨running, told, hreports, h⟩ | h⟩
    · rw [h, Option.getD_some, Findings.count_begin]
      -- what was found in a file that is begun again is dropped
      by_cases hfile : file = begun
      · exact ⟨∅, by simp [hfile], by simp⟩
      · exact ⟨positions, by rw [if_neg hfile, hcard], hkept⟩
    · rw [h, Option.getD_some, Findings.count_add, ← hcard]
      by_cases hsame : file = running ∧ message = told
      · obtain ⟨rfl, rfl⟩ := hsame
        -- the positions so far lie in the log, so that of the last line is a new one
        have hnew : log.length ∉ positions := fun hmem =>
          Nat.lt_irrefl _ (hpositions _ hmem).lt_length
        refine ⟨insert log.length positions, ?_, ?_⟩
        · rw [Finset.card_insert_of_notMem hnew, if_pos ⟨rfl, rfl⟩]
        · intro i hi
          rcases Finset.mem_insert.mp hi with rfl | hi
          · exact standsAt_concat.mpr (.inr ⟨rfl, hreports⟩)
          · exact hkept i hi
      · exact ⟨positions, by rw [if_neg hsame, Nat.add_zero], hkept⟩
    · rw [h]
      exact ⟨positions, hcard, hkept⟩

/-- **Where the findings of a checker come from.** The analysed files are the last words of the
lines that open a run, and a message is counted in a file at most once for each item line that tells
it in an open run on the file. -/
theorem findings?_attributed (checker : Checker) (log : List Text) :
    (∀ file, (∃ findings ∈ checker.findings? log, file ∈ findings.files) ↔
        ∃ i, StandsAt (checker.Opens file) log i) ∧
      ∀ findings ∈ checker.findings? log, ∀ file message, ∃ positions : Finset Nat,
        positions.card = findings.count file message ∧
          ∀ i ∈ positions, StandsAt (checker.Reports file message) log i := by
  constructor
  · intro file
    rw [← mem_files_foldl_scan]
    unfold findings?
    cases (log.foldl checker.scan {}).findings with
    | none => exact iff_of_false (by simp) nofun
    | some findings => simp
  · intro findings hfindings file message
    have hcount := exists_positions_foldl_scan checker log file message
    rw [show (log.foldl checker.scan {}).findings = some findings from hfindings] at hcount
    exact hcount

/-- VERA++ breaks down on one file, is closed on the next one, and runs on a third. -/
theorem findings?_attributed_broken_down :
    ∃ log findings, vera.findings? log = some findings ∧ ("a.cpp" : Text) ∈ findings.files ∧
      ("c.cpp" : Text) ∈ findings.files ∧
        ∃ i, StandsAt (vera.Reports "a.cpp" "unused") log i := by
  let inside : List Text :=
    ["MSGBLD0130: Running VERA++ for b.cpp", "MSGBLD0135: [VERA++] b.cpp:1: unused"]
  let opening : Text := "MSGBLD0130: Running VERA++ for a.cpp"
  let last : Text := "MSGBLD0140: VERA++ for b.cpp completed."
  let closed : List Text := opening :: inside ++ [last]
  let third : Text := "MSGBLD0130: Running VERA++ for c.cpp"
  let log : List Text := closed ++ [third]
  have hinside : ∀ line ∈ inside, vera.endsRun line = false := by decide
  have hclosed : vera.Idle closed := .closed .nil (by decide) hinside (by decide)
  have hfirst : StandsAt (vera.Opens "a.cpp") log 0 := ⟨_, rfl, .nil, by decide, by decide⟩
  have hthird : StandsAt (vera.Opens "c.cpp") log 4 := ⟨_, rfl, hclosed, by decide, by decide⟩
  obtain ⟨hfiles, hmessages⟩ := findings?_attributed vera log
  obtain ⟨findings, hfindings, ha⟩ := (hfiles "a.cpp").mpr ⟨0, hfirst⟩
  obtain ⟨same, hsame, hc⟩ := (hfiles "c.cpp").mpr ⟨4, hthird⟩
  obtain rfl : findings = same := Option.some.inj (hfindings.symm.trans hsame)
  obtain ⟨positions, hcard, hpositions⟩ := hmessages findings hfindings "a.cpp" "unused"
  have hcount : (vera.findings? log).map (·.count "a.cpp" "unused") = some 1 := by decide
  rw [hfindings, Option.map_some, Option.some.injEq, ← hcard] at hcount
  obtain ⟨i, hi⟩ := Finset.card_pos.mp (hcount ▸ Nat.one_pos)
  exact ⟨log, findings, hfindings, ha, hc, i, hpositions i hi⟩

/-- Of the lines that carry the opening marker and no item, the nearest one names the file. -/
def NearestNames (checker : Checker) (file : Text) (before : List Text) : Prop :=
  ∃ earlier opening inside, before = earlier ++ opening :: inside ∧
    checker.run.opens opening = true ∧ checker.item.occursIn opening = false ∧
      Text.lastWord opening = file ∧
        ∀ line ∈ inside, checker.run.opens line = true → checker.item.occursIn line = true

theorem NearestNames.lastWord_eq (h : checker.NearestNames file (lines ++ [line]))
    (hopens : checker.run.opens line = true) (hitem : checker.item.occursIn line = false) :
    Text.lastWord line = file := by
  obtain ⟨earlier, opening, inside, hlines, -, -, hfile, hinside⟩ := h
  rcases List.eq_nil_or_concat inside with rfl | ⟨init, last, rfl⟩
  · obtain ⟨-, hline⟩ := List.append_inj' hlines rfl
    rw [List.singleton_inj.mp hline]
    exact hfile
  -- no line after the nearest one carries the opening marker and no item
  · rw [List.concat_eq_append, ← List.cons_append, ← List.append_assoc] at hlines
    obtain ⟨-, hline⟩ := List.append_inj' hlines rfl
    obtain rfl := List.singleton_inj.mp hline
    rw [hinside line (by simp) hopens] at hitem
    cases hitem

/-- **An opening marker in an open run is not looked at**: the file on its line is not among the
analysed ones, and the messages that follow it are counted in the file of the open run. -/
theorem not_forall_attributed_to_nearest :
    (¬ ∀ checker ∈ all, ∀ log : List Text, ∀ line ∈ log, checker.run.opens line = true →
        checker.item.occursIn line = false →
          ∃ findings ∈ checker.findings? log, Text.lastWord line ∈ findings.files) ∧
      ¬ ∀ checker ∈ all, ∀ log : List Text, ∀ findings ∈ checker.findings? log,
        ∀ file message, findings.count file message ≠ 0 → ∃ i, StandsAt (fun before line =>
          checker.item.occursIn line = true ∧ checker.message? line = some message ∧
            checker.NearestNames file before) log i := by
  let broken : Text := "MSGBLD0130: Running VERA++ for a.cpp"
  let next : Text := "MSGBLD0130: Running VERA++ for b.cpp"
  let item : Text := "MSGBLD0135: [VERA++] b.cpp:1: unused"
  let log : List Text := [broken, next, item]
  constructor
  · intro h
    obtain ⟨findings, hfindings, hfile⟩ := h vera (by decide) log next (by decide) (by decide)
      (by decide)
    have hfiles : (vera.findings? log).map Findings.files = some ["a.cpp".toList] := by decide
    rw [hfindings, Option.map_some, Option.some.injEq] at hfiles
    rw [hfiles] at hfile
    exact absurd hfile (by decide)
  · intro h
    have hcount : (vera.findings? log).map (·.count "a.cpp" "unused") = some 1 := by decide
    obtain ⟨findings, hfindings, hone⟩ := Option.map_eq_some_iff.mp hcount
    have hne : findings.count "a.cpp" "unused" ≠ 0 := by
      rw [hone]
      exact Nat.one_ne_zero
    obtain ⟨i, line, hline, hitem, -, hnearest⟩ :=
      h vera (by decide) log findings hfindings "a.cpp" "unused" hne
    obtain ⟨hlt, -⟩ := List.getElem?_eq_some_iff.mp hline
    -- the only item stands behind the marker that is not looked at
    have hlast : ∀ j < log.length, (log[j]?).any vera.item.occursIn = true → j = 2 := by decide
    obtain rfl := hlast i hlt (by rw [hline, Option.any_some, hitem])
    have hnext : vera.NearestNames "a.cpp" ([broken] ++ [next]) := hnearest
    exact absurd (hnext.lastWord_eq (by decide) (by decide)) (by decide)

end Checker

end BuildSummary
