import BuildSummary.Proofs.OpenRun

/-!
# Logs put together

A reader of a log that stands outside all runs of a checker has forgotten everything but what was
found. So the findings of two logs put together are those of the second laid over those of the
first: a file that is analysed again has what the later log tells of it, all other files keep what
they had. Runs on different files that follow each other may trade places.

## Main definitions

* `Index.overlay`: an index laid over another one
* `Findings.UpdatesTo`: the findings of a later log in place of those of an earlier one
* `Checker.IsRunOn`: lines that are one run, from its opening to its end

## Main results

* `Checker.findings?_append`: the findings of logs put together, as one equation
* `Checker.findings?_append_swap`: runs on different files may trade places
* `Checker.findings?_of_parts`: what is found in which part of a log
-/

namespace BuildSummary

/-! ## An index over another one -/

namespace Index

variable {V : Type} {below above : Index V}

/-- The values of `above`, and those of `below` at the keys that `above` lacks. -/
def overlay (below above : Index V) : Index V :=
  above.entries.foldr (fun entry index => index.insert entry.1 entry.2) below

/-- What lies above hides what lies below. -/
theorem get?_overlay (below above : Index V) (key : Text) :
    (below.overlay above).get? key = (above.get? key).or (below.get? key) := by
  unfold overlay
  rw [get?.eq_def above]
  induction above.entries with
  | nil => rfl
  | cons entry rest ih =>
    obtain ⟨k, value⟩ := entry
    rw [List.foldr_cons, get?_insert, lookup_cons_eq, ih]
    by_cases hkey : key = k
    · rw [if_pos hkey, if_pos hkey, Option.some_or]
    · rw [if_neg hkey, if_neg hkey]

theorem contains_overlay (below above : Index V) (key : Text) :
    (below.overlay above).contains key = (above.contains key || below.contains key) := by
  unfold contains
  rw [get?_overlay, Option.isSome_or]

theorem empty_overlay (above : Index V) : (∅ : Index V).overlay above = above := by
  refine ext_get? fun key => ?_
  rw [get?_overlay, get?_empty, Option.or_none]

/-- Indexes without a common key may be laid over each other either way. -/
theorem overlay_comm (h : ∀ key, below.get? key = none ∨ above.get? key = none) :
    below.overlay above = above.overlay below := by
  refine ext_get? fun key => ?_
  rw [get?_overlay, get?_overlay]
  rcases h key with hnone | hnone
  · rw [hnone, Option.or_none, Option.none_or]
  · rw [hnone, Option.none_or, Option.or_none]

end Index

/-! ## Findings over earlier ones -/

namespace Findings

/-- Runs that come later replace what was found in their files and nothing else. -/
theorem foldl_addRun_eq (findings : Findings) (runs : List Run) :
    runs.foldl addRun findings = findings.overlay (ofRuns runs) := by
  refine Index.ext_get? fun file => ?_
  rw [Index.get?_overlay, ofRuns]
  -- the last run on a file decides, so the runs are taken off at the end
  induction runs using List.reverseRecOn with
  | nil => rfl
  | append_singleton runs run ih =>
    rw [List.foldl_concat, List.foldl_concat, addRun, addRun, Index.get?_insert, Index.get?_insert]
    by_cases hfile : file = run.file
    · rw [if_pos hfile, if_pos hfile, Option.some_or]
    · rw [if_neg hfile, if_neg hfile, ih]

/-- Whether the file is among the analysed ones, if the checker ran at all. -/
def Analysed (findings : Option Findings) (file : Text) : Prop :=
  file ∈ (findings.getD ∅).files

/-- The findings are the later ones for the files that were analysed later and the earlier ones for
the files that were not, and there are no other files. -/
structure UpdatesTo (earlier later : Option Findings) (findings : Findings) : Prop where
  mem_files_iff : ∀ file, file ∈ findings.files ↔ Analysed earlier file ∨ Analysed later file
  messages_later : ∀ file, Analysed later file →
    findings.messages file = (later.getD ∅).messages file
  messages_earlier : ∀ file, ¬ Analysed later file →
    findings.messages file = (earlier.getD ∅).messages file

theorem analysed_iff {findings : Option Findings} {file : Text} :
    Analysed findings file ↔ ((findings.getD ∅).get? file).isSome = true :=
  Index.mem_keys_iff

theorem updatesTo_overlay (earlier later : Option Findings) :
    UpdatesTo earlier later ((earlier.getD ∅).overlay (later.getD ∅)) := by
  refine ⟨fun file => ?_, fun file hfile => ?_, fun file hfile => ?_⟩
  · rw [files, Index.mem_keys_iff, Index.contains_overlay, Bool.or_eq_true, or_comm, analysed_iff,
      analysed_iff]
    rfl
  · obtain ⟨told, htold⟩ := Option.isSome_iff_exists.mp (analysed_iff.mp hfile)
    rw [messages, messages, Index.get?_overlay, htold, Option.some_or]
  · rw [analysed_iff, Bool.not_eq_true, Option.isSome_eq_false_iff,
      Option.isNone_iff_eq_none] at hfile
    rw [messages, messages, Index.get?_overlay, hfile, Option.none_or]

/-- Laying one part over the other updates it, also if the checker ran in only one of them. -/
theorem updatesTo_of_merge_eq_some {earlier later : Option Findings} {findings : Findings}
    (h : Option.merge Index.overlay earlier later = some findings) :
    UpdatesTo earlier later findings := by
  have hupdates := updatesTo_overlay earlier later
  cases earlier with
  | none =>
    cases later with
    | none => cases h
    | some later =>
      obtain rfl := Option.some.inj h
      rw [Option.getD_none, Option.getD_some, Index.empty_overlay] at hupdates
      exact hupdates
  | some earlier =>
    cases later with
    | none =>
      obtain rfl := Option.some.inj h
      exact hupdates
    | some later =>
      obtain rfl := Option.some.inj h
      exact hupdates

end Findings

/-! ## Logs after each other -/

namespace Checker

variable {checker : Checker} {log rest first second : List Text} {file other : Text}

theorem Idle.foldl_scan (h : checker.Idle log) :
    log.foldl checker.scan {} = ⟨checker.findings? log, none⟩ :=
  congrArg (Progress.mk (checker.findings? log)) h.file_foldl_scan

/-- **The findings of logs put together** are those of the later one laid over those of the earlier
one, if no run is open in between. -/
theorem findings?_append (h : checker.Idle log) (rest : List Text) :
    checker.findings? (log ++ rest) =
      Option.merge Index.overlay (checker.findings? log) (checker.findings? rest) := by
  have hread : checker.findings? (log ++ rest) =
      if checker.runs rest = [] then checker.findings? log
      else some ((checker.readRuns rest).foldl Findings.addRun
        ((checker.findings? log).getD ∅)) := by
    rw [findings?.eq_def checker (log ++ rest), List.foldl_append, h.foldl_scan,
      findings_foldl_scan]
  rw [hread, findings?_eq checker rest]
  by_cases hruns : checker.runs rest = []
  · rw [if_pos hruns, if_pos hruns, Option.merge_none_right]
  · rw [if_neg hruns, if_neg hruns]
    cases checker.findings? log with
    | none => rfl
    | some findings => exact congrArg some (Findings.foldl_addRun_eq findings _)

theorem Idle.append (h : checker.Idle first) (h' : checker.Idle second) :
    checker.Idle (first ++ second) := by
  induction h' with
  | nil => rwa [List.append_nil]
  | skip _ hopens ih =>
    rw [← List.append_assoc]
    exact ih.skip hopens
  | closed _ hopens hinside hlast ih =>
    rw [← List.append_assoc, ← List.append_assoc]
    exact ih.closed hopens hinside hlast

/-! ## Runs that trade places -/

/-- The lines are one run on the file: the line that opens it, the lines in it, and the line that
ends it. -/
def IsRunOn (checker : Checker) (file : Text) (lines : List Text) : Prop :=
  ∃ opening inside last, lines = opening :: inside ++ [last] ∧
    checker.run.opens opening = true ∧ Text.lastWord opening = file ∧
      (∀ line ∈ inside, checker.endsRun line = false) ∧ checker.endsRun last = true

theorem IsRunOn.idle (h : checker.IsRunOn file log) : checker.Idle log := by
  obtain ⟨opening, inside, last, rfl, hopens, -, hinside, hlast⟩ := h
  exact .closed .nil hopens hinside hlast

/-- A run alone tells of its file only. -/
theorem IsRunOn.findings? (h : checker.IsRunOn file log) :
    ∃ findings, checker.findings? log = some findings ∧
      ∀ key, key ≠ file → findings.get? key = none := by
  obtain ⟨opening, inside, last, rfl, hopens, rfl, hinside, hlast⟩ := h
  have hruns : checker.runs (opening :: inside ++ [last]) =
      [⟨Text.lastWord opening, inside⟩] := by
    rw [List.cons_append, runs_cons_append hopens hinside hlast, runs]
  refine ⟨.ofRuns [checker.readRun ⟨Text.lastWord opening, inside⟩], ?_, fun key hkey => ?_⟩
  · rw [findings?_eq, readRuns, hruns, if_neg (List.cons_ne_nil _ _), List.map_singleton]
  · exact (Index.get?_insert _ _ _ _).trans (if_neg hkey)

/-- **Runs on different files may trade places.** -/
theorem findings?_append_swap (hfirst : checker.IsRunOn file first)
    (hsecond : checker.IsRunOn other second) (hne : file ≠ other) (hlog : checker.Idle log)
    (rest : List Text) :
    checker.findings? (log ++ first ++ second ++ rest) =
      checker.findings? (log ++ second ++ first ++ rest) := by
  have hboth : checker.findings? (first ++ second) = checker.findings? (second ++ first) := by
    obtain ⟨findings, hfindings, hfile⟩ := hfirst.findings?
    obtain ⟨others, hothers, hother⟩ := hsecond.findings?
    rw [findings?_append hfirst.idle, findings?_append hsecond.idle, hfindings, hothers]
    refine congrArg some (Index.overlay_comm fun key => ?_)
    by_cases hkey : key = file
    · exact .inr (hother key (hkey.trans_ne hne))
    · exact .inl (hfile key hkey)
  have hparts {front back : List Text} (hfront : checker.Idle front) (hback : checker.Idle back) :
      checker.findings? (log ++ front ++ back ++ rest) =
        Option.merge Index.overlay (checker.findings? log)
          (Option.merge Index.overlay (checker.findings? (front ++ back))
            (checker.findings? rest)) := by
    rw [List.append_assoc, List.append_assoc, findings?_append hlog, ← List.append_assoc,
      findings?_append (hfront.append hback)]
  rw [hparts hfirst.idle hsecond.idle, hparts hsecond.idle hfirst.idle, hboth]

/-- **What is found in which part of a log.** If no run is open between two parts, a checker ran in
the whole log exactly if it ran in one of them, and the later part updates what the earlier one
tells. So runs on different files that follow each other may trade places. -/
theorem findings?_of_parts (checker : Checker) :
    (∀ log rest, checker.Idle log →
        (checker.findings? (log ++ rest) = none ↔
          checker.findings? log = none ∧ checker.findings? rest = none) ∧
        ∀ findings, checker.findings? (log ++ rest) = some findings →
          Findings.UpdatesTo (checker.findings? log) (checker.findings? rest) findings) ∧
      ∀ log first second rest file other, checker.Idle log → checker.IsRunOn file first →
        checker.IsRunOn other second → file ≠ other →
          checker.findings? (log ++ first ++ second ++ rest) =
            checker.findings? (log ++ second ++ first ++ rest) := by
  constructor
  · intro log rest hlog
    rw [findings?_append hlog]
    refine ⟨?_, fun findings => Findings.updatesTo_of_merge_eq_some⟩
    cases checker.findings? log <;> cases checker.findings? rest <;> simp [Option.merge]
  · intro log first second rest file other hlog hfirst hsecond hne
    exact findings?_append_swap hfirst hsecond hne hlog rest

/-- Two files are analysed, and one of them once more in a run that is not closed. -/
theorem findings?_of_parts_again :
    ∃ first second rest findings, vera.IsRunOn "a.cpp" first ∧ vera.IsRunOn "b.cpp" second ∧
      vera.findings? (first ++ second ++ rest) = some findings ∧
      Findings.UpdatesTo (vera.findings? (first ++ second)) (vera.findings? rest) findings ∧
      findings.messages "a.cpp" = [("new".toList, 1)] ∧
      findings.messages "b.cpp" = [("unused".toList, 2)] ∧
      vera.findings? (second ++ first ++ rest) = some findings := by
  let first : List Text := ["MSGBLD0130: a.cpp", "MSGBLD0135: old", "MSGBLD0140"]
  let second : List Text :=
    ["MSGBLD0130: b.cpp", "MSGBLD0135: unused", "MSGBLD0135: unused", "MSGBLD0140"]
  let rest : List Text := ["MSGBLD0130: a.cpp", "MSGBLD0135: new"]
  have hfirst : vera.IsRunOn "a.cpp" first :=
    ⟨_, ["MSGBLD0135: old".toList], _, rfl, by decide, by decide, by decide, by decide⟩
  have hsecond : vera.IsRunOn "b.cpp" second :=
    ⟨_, ["MSGBLD0135: unused".toList, "MSGBLD0135: unused".toList], _, rfl, by decide, by decide,
      by decide, by decide⟩
  have hne : ("a.cpp" : Text) ≠ "b.cpp" := by decide
  obtain ⟨hparts, hswap⟩ := findings?_of_parts vera
  obtain ⟨-, hupdates⟩ := hparts (first ++ second) rest (hfirst.idle.append hsecond.idle)
  have hmessages : (vera.findings? (first ++ second ++ rest)).map
      (fun findings => (findings.messages "a.cpp", findings.messages "b.cpp")) =
        some ([("new".toList, 1)], [("unused".toList, 2)]) := by decide
  obtain ⟨findings, hfindings, hpair⟩ := Option.map_eq_some_iff.mp hmessages
  rw [Prod.mk.injEq] at hpair
  have hswapped := hswap [] first second rest "a.cpp" "b.cpp" .nil hfirst hsecond hne
  exact ⟨first, second, rest, findings, hfirst, hsecond, hfindings, hupdates findings hfindings,
    hpair.1, hpair.2, hswapped.symm.trans hfindings⟩

end Checker

end BuildSummary
