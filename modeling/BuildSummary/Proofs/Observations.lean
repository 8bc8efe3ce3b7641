import Mathlib.Algebra.Ring.Nat
import Mathlib.Data.List.DropRight
import BuildSummary.Proofs.History

/-!
# What is observed of findings

For each file, findings are the multiset of the messages that occurred since its analysis began
last. The files, the messages of a file, the counts and the totals are different views of it, and
they determine it. A step of a history is seen only in the file that it is about.

## Main definitions

* `Findings.sinceBegun`: the steps since the analysis of a file began last
* `Findings.IsTallyOf`: what is observed of findings tells how often each message occurred
* `Findings.SeenAlike`: nothing that is observed of a file tells two findings apart

## Main results

* `Findings.count_take`, `Findings.count_ofHistory`: the counts after one step, and after all
* `Findings.get?_take_of_ne`: a step changes its own file only
* `Findings.fileTotal_eq`, `Findings.total_eq`: the messages of a file, and of all files, add up
* `Findings.isTallyOf_ofHistory`, `Findings.IsTallyOf.unique`: the findings after a history are the
  only ones that tally it
* `Findings.observed_ofHistory`: what is observed after a history
-/

namespace BuildSummary

theorem Index.sum_eq (index : Index Nat) : index.sum = (index.entries.map (·.2)).sum := by
  rw [sum, List.sum, List.foldr_map]

namespace Findings

variable {findings other : Findings} {history : List Step} {step : Step} {file message : Text}

/-! ## One step -/

/-- The counts after one step: the analysis of a file starts them afresh. -/
theorem count_take (findings : Findings) (step : Step) (file message : Text) :
    (findings.take step).count file message =
      if step = .begins file then 0
      else findings.count file message + if step = .occurs file message then 1 else 0 := by
  cases step with
  | begins begun => simp [take, count_begin, eq_comm]
  | occurs begun told => simp [take, count_add, eq_comm]

/-- **A step changes its own file only.** -/
theorem get?_take_of_ne (findings : Findings) (h : step.file ≠ file) :
    (findings.take step).get? file = findings.get? file := by
  cases step with
  | begins begun => exact (Index.get?_insert findings begun file ∅).trans (if_neg h.symm)
  | occurs begun told => exact (Index.get?_alter findings begun file _).trans (if_neg h.symm)

/-! ## All steps -/

/-- The steps since the analysis of the file began last; all of them if it never began. -/
def sinceBegun (file : Text) (history : List Step) : List Step :=
  history.rtakeWhile (· ≠ .begins file)

theorem sinceBegun_concat (file : Text) (history : List Step) (step : Step) :
    sinceBegun file (history ++ [step]) =
      if step = .begins file then [] else sinceBegun file history ++ [step] := by
  rw [sinceBegun, List.rtakeWhile_concat]
  by_cases h : step = .begins file
  · rw [if_pos h, if_neg (by simp [h])]
  · rw [if_neg h, if_pos (by simp [h]), sinceBegun]

/-- **How often a message occurred** since the analysis of the file began last. -/
theorem count_ofHistory (history : List Step) (file message : Text) :
    (ofHistory history).count file message =
      (sinceBegun file history).count (.occurs file message) := by
  induction history using List.reverseRecOn with
  | nil => rfl
  | append_singleton history step ih =>
    rw [ofHistory_concat, count_take, sinceBegun_concat, ih]
    by_cases h : step = .begins file
    -- the analysis begins, so that nothing before it counts
    · rw [if_pos h, if_pos h]
      rfl
    · rw [if_neg h, if_neg h, List.count_append, List.count_singleton]
      simp only [beq_iff_eq]

/-- **The analysed files** are those that some step is about. -/
theorem contains_ofHistory_iff :
    (ofHistory history).contains file = true ↔ ∃ step ∈ history, step.file = file := by
  refine ⟨exists_of_contains_ofHistory, ?_⟩
  induction history using List.reverseRecOn with
  | nil => nofun
  | append_singleton history step ih =>
    rintro ⟨earlier, hmem, hfile⟩
    rw [ofHistory_concat, contains_take, Bool.or_eq_true, decide_eq_true_iff]
    rcases List.mem_append.mp hmem with hmem | hmem
    · exact .inr (ih ⟨earlier, hmem, hfile⟩)
    · rw [← List.mem_singleton.mp hmem]
      exact .inl hfile.symm

/-! ## The views of findings -/

theorem fileCount_eq (findings : Findings) : findings.fileCount = findings.files.length :=
  (List.length_map _).symm

/-- The messages of a file are those that are listed for it. -/
theorem fileTotal_eq (findings : Findings) (file : Text) :
    findings.fileTotal file =
      ((findings.messages file).map fun entry => findings.count file entry.1).sum := by
  rw [fileTotal, Index.sum_eq]
  refine congrArg List.sum (List.map_congr_left fun entry hentry => ?_)
  rw [count, Index.mem_entries_iff.mp hentry, Option.getD_some]

/-- All messages are those of the files. -/
theorem total_eq (findings : Findings) :
    findings.total = (findings.files.map findings.fileTotal).sum := by
  have hentries : findings.files.map findings.fileTotal = findings.entries.map (·.2.sum) := by
    rw [files, Index.keys, List.map_map]
    refine List.map_congr_left fun entry hentry => ?_
    rw [Function.comp_apply, fileTotal, Index.mem_entries_iff.mp hentry, Option.getD_some]
  rw [hentries, total, List.sum, List.foldr_map]

theorem pairwise_files (findings : Findings) :
    findings.files.Pairwise fun a b => a.before b = true :=
  Index.pairwise_keys findings

theorem pairwise_messages (findings : Findings) (file : Text) :
    (findings.messages file).Pairwise fun a b => a.1.before b.1 = true :=
  ((findings.get? file).getD ∅).ascending

/-- Findings are determined by their files and the messages of these. -/
theorem eq_of_messages_eq (hcontains : ∀ file, findings.contains file = other.contains file)
    (hmessages : ∀ file, findings.messages file = other.messages file) : findings = other := by
  apply Index.ext_get?
  intro file
  have hfile := hcontains file
  have hentries := hmessages file
  unfold Index.contains at hfile
  unfold messages at hentries
  -- either both have the file or neither does
  cases hleft : findings.get? file <;> cases hright : other.get? file
  · rfl
  · simp [hleft, hright] at hfile
  · simp [hleft, hright] at hfile
  · rw [hleft, hright] at hentries
    exact congrArg some (Index.ext hentries)

/-- Findings that list no message in vain are determined by their files and their counts. -/
theorem IsPositive.eq_of_count_eq (h : findings.IsPositive) (h' : other.IsPositive)
    (hcontains : ∀ file, findings.contains file = other.contains file)
    (hcount : ∀ file message, findings.count file message = other.count file message) :
    findings = other := by
  apply eq_of_messages_eq hcontains
  intro file
  -- both list the messages in order, so it is enough that they list the same ones
  apply Index.entries_eq_of_mem_iff (pairwise_messages findings file) (pairwise_messages other file)
  rintro ⟨message, n⟩
  rw [h.mem_messages_iff, h'.mem_messages_iff, hcount]

/-! ## Findings as a multiset -/

/-- What is observed of the findings tells how often each message occurred in the history since the
analysis of its file began last. -/
structure IsTallyOf (findings : Findings) (history : List Step) : Prop where
  count_eq : ∀ file message, findings.count file message =
    (sinceBegun file history).count (.occurs file message)
  contains_iff : ∀ file, findings.contains file = true ↔ ∃ step ∈ history, step.file = file
  fileTotal_eq : ∀ file, findings.fileTotal file =
    ((findings.messages file).map fun entry => findings.count file entry.1).sum
  total_eq : findings.total = (findings.files.map findings.fileTotal).sum
  fileCount_eq : findings.fileCount = findings.files.length
  mem_files_iff : ∀ file, file ∈ findings.files ↔ findings.contains file = true
  files_ascending : findings.files.Pairwise fun a b => a.before b = true
  files_nodup : findings.files.Nodup
  mem_messages_iff : ∀ file message n, (message, n) ∈ findings.messages file ↔
    0 < n ∧ findings.count file message = n
  messages_ascending : ∀ file,
    ((findings.messages file).map (·.1)).Pairwise fun a b => a.before b = true
  messages_nodup : ∀ file, ((findings.messages file).map (·.1)).Nodup

/-- **The findings after a history** are its tally. -/
theorem isTallyOf_ofHistory (history : List Step) : (ofHistory history).IsTallyOf history where
  count_eq := count_ofHistory history
  contains_iff _ := contains_ofHistory_iff
  fileTotal_eq := fileTotal_eq _
  total_eq := total_eq _
  fileCount_eq := fileCount_eq _
  mem_files_iff _ := Index.mem_keys_iff
  files_ascending := pairwise_files _
  files_nodup := Index.nodup_keys _
  mem_messages_iff _ _ _ := (isPositive_ofHistory history).mem_messages_iff
  messages_ascending file := List.pairwise_map.mpr (pairwise_messages _ file)
  messages_nodup _ := Index.nodup_keys _

/-- **A history has only one tally.** -/
theorem IsTallyOf.unique (h : findings.IsTallyOf history) (h' : other.IsTallyOf history) :
    findings = other := by
  have hpositive : findings.IsPositive := fun file entry hentry =>
    ((h.mem_messages_iff file entry.1 entry.2).mp hentry).1
  have hpositive' : other.IsPositive := fun file entry hentry =>
    ((h'.mem_messages_iff file entry.1 entry.2).mp hentry).1
  apply hpositive.eq_of_count_eq hpositive'
  · intro file
    rw [Bool.eq_iff_iff, h.contains_iff, h'.contains_iff]
  · intro file message
    rw [h.count_eq, h'.count_eq]

/-- Nothing that is observed of the file tells the findings apart. -/
structure SeenAlike (file : Text) (findings other : Findings) : Prop where
  contains_eq : findings.contains file = other.contains file
  mem_files_iff : file ∈ findings.files ↔ file ∈ other.files
  count_eq : ∀ message, findings.count file message = other.count file message
  messages_eq : findings.messages file = other.messages file
  fileTotal_eq : findings.fileTotal file = other.fileTotal file

/-- All that is observed of a file is what is held for it. -/
theorem seenAlike_of_get?_eq (h : findings.get? file = other.get? file) :
    SeenAlike file findings other := by
  have hcontains : findings.contains file = other.contains file := congrArg Option.isSome h
  refine ⟨hcontains, ?_, fun message => ?_, ?_, ?_⟩
  · rw [files, files, Index.mem_keys_iff, Index.mem_keys_iff, hcontains]
  · rw [count, count, h]
  · rw [messages, messages, h]
  · rw [fileTotal, fileTotal, h]

/-- **What is observed after a history.** The findings are the tally of the history, which has no
other, and one more step is not seen in any file but its own. -/
theorem observed_ofHistory (history : List Step) :
    (∀ findings, findings.IsTallyOf history ↔ findings = ofHistory history) ∧
      ∀ (step : Step) (file : Text), step.file ≠ file →
        SeenAlike file (ofHistory (history ++ [step])) (ofHistory history) := by
  refine ⟨fun findings => ⟨fun h => h.unique (isTallyOf_ofHistory history), ?_⟩, ?_⟩
  · rintro rfl
    exact isTallyOf_ofHistory history
  · intro step file hne
    rw [ofHistory_concat]
    exact seenAlike_of_get?_eq (get?_take_of_ne _ hne)

/-- Two files in turn: what occurred in the first before its analysis began once more is dropped,
and what is left of it stays when the analysis of the second begins once more. -/
theorem observed_ofHistory_in_turn :
    ∃ history : List Step, (ofHistory history).IsTallyOf history ∧
      (ofHistory history).messages "a.cpp" = [("indent".toList, 1)] ∧
      SeenAlike "a.cpp" (ofHistory (history ++ [.begins "b.cpp"])) (ofHistory history) := by
  let history : List Step := [.begins "a.cpp", .occurs "a.cpp" "unused", .begins "b.cpp",
    .occurs "b.cpp" "unused", .begins "a.cpp", .occurs "a.cpp" "indent"]
  have hobserved := observed_ofHistory history
  have hother : (Step.begins "b.cpp").file ≠ ("a.cpp" : Text) := by decide
  exact ⟨history, (hobserved.1 _).mpr rfl, by decide, hobserved.2 _ _ hother⟩

end Findings

end BuildSummary
