import BuildSummary.Index
import BuildSummary.Phase

/-!
# Findings of a checker

What a static checker reported: the files that it analysed and, for each of them, how often each
message occurred. A file that is analysed again starts afresh.

## Main definitions

* `Findings.begin`, `Findings.add`: a file is analysed, a message occurs
* `Findings.count`, `Findings.fileTotal`, `Findings.total`: how many messages there are
* `Findings.files`, `Findings.fileCount`: which files were analysed, and how many

## Main results

* `Findings.count_begin`, `Findings.count_add`: what an analysis and a message change
* `Findings.total_eq_zero_iff`: when there are no messages
-/

namespace BuildSummary

/-- For each analysed file, how often each message occurred. -/
abbrev Findings := Index (Index Nat)

namespace Findings

/-- The analysis of a file begins; what was found in it before is dropped. -/
def begin (findings : Findings) (file : Text) : Findings :=
  findings.insert file ∅

/-- A message occurs in a file. -/
def add (findings : Findings) (file message : Text) : Findings :=
  findings.alter file fun messages => (messages.getD ∅).increment message

/-- The analysed files, ascending. -/
def files (findings : Findings) : List Text :=
  findings.keys

/-- How many files were analysed. -/
def fileCount (findings : Findings) : Nat :=
  findings.entries.length

/-- The messages of a file with their counts, ascending; none for a file not analysed. -/
def messages (findings : Findings) (file : Text) : List (Text × Nat) :=
  ((findings.get? file).getD ∅).entries

/-- How often a message occurred in a file. -/
def count (findings : Findings) (file message : Text) : Nat :=
  (((findings.get? file).getD ∅).get? message).getD 0

/-- How many messages a file has. -/
def fileTotal (findings : Findings) (file : Text) : Nat :=
  ((findings.get? file).getD ∅).sum

/-- How many messages there are in all files. -/
def total (findings : Findings) : Nat :=
  findings.entries.foldr (fun entry sum => entry.2.sum + sum) 0

/-! ## What an analysis and a message change -/

theorem count_begin (findings : Findings) (file f m : Text) :
    (findings.begin file).count f m = if f = file then 0 else findings.count f m := by
  unfold count begin
  rw [Index.get?_insert]
  by_cases h : f = file <;> simp [h]

theorem count_add (findings : Findings) (file message f m : Text) :
    (findings.add file message).count f m =
      findings.count f m + if f = file ∧ m = message then 1 else 0 := by
  unfold count add
  rw [Index.get?_alter]
  by_cases hf : f = file
  · subst hf
    rw [if_pos rfl, Option.getD_some, Index.get?_increment]
    by_cases hm : m = message <;> simp [hm]
  · simp [hf]

/-- A message in a file whose counts are known is one count more. -/
theorem add_insert (findings : Findings) (file message : Text) (counts : Index Nat) :
    Findings.add (findings.insert file counts) file message =
      findings.insert file (counts.increment message) :=
  Index.alter_insert findings file counts _

/-- There are no messages at all if and only if none occurs in any file. -/
theorem total_eq_zero_iff {findings : Findings} :
    findings.total = 0 ↔ ∀ file message, findings.count file message = 0 := by
  refine (Index.foldr_add_eq_zero_iff Index.sum).trans ⟨fun h file message => ?_, ?_⟩
  · unfold count
    cases hget : findings.get? file with
    | none => rfl
    | some messages =>
      exact Index.sum_eq_zero_iff.mp (h (file, messages) (Index.mem_entries_iff.mpr hget)) message
  · rintro h ⟨file, messages⟩ hmem
    refine Index.sum_eq_zero_iff.mpr fun message => ?_
    simpa [count, Index.mem_entries_iff.mp hmem] using h file message

/-! ## A checker may not have run -/

/-- How many messages a checker reported, none if it did not run. -/
def totalOf (findings : Option Findings) : Nat :=
  (findings.map total).getD 0

/-- A checker that ran passes if it reported nothing. -/
def statusOf (findings : Option Findings) : Status :=
  match findings with
  | none => .skipped
  | some findings => .ofSuccess (findings.total == 0)

end Findings

end BuildSummary
