import BuildSummary.Proofs.Reading
import BuildSummary.Script

/-!
# The list of changed files

The phase in which the changed files are listed is completed at the first line that closes it at or
after the line that opens it. The list is read on its own, though, and looks for the closing marker
only on lines after the opening that carry no item. So if the phase is completed by the line that
opens it, or by a line that carries an item, the list goes on behind its end, up to the next line
that closes the phase and carries no item.

## Main definitions

* `Phase.filesOn`: the files on the item lines among some lines
* `Phase.overrun`: the lines behind the end of the phase from which files are still listed

## Main results

* `Phase.changedFiles_eq_append`: the listed files are those inside the phase and those of the
  overrun
* `Phase.changedFiles_exact_iff`: when exactly the files inside the phase are listed
* `Phase.not_forall_changedFiles_exact`: a file behind the end of the phase may be listed
-/

namespace BuildSummary.Phase

variable {phase : Phase} {item last : Text} {log before inside after lines : List Text}

/-- The files on the item lines among some lines. -/
def filesOn (item : Text) (lines : List Text) : List Text :=
  (lines.filter item.occursIn).map Text.lastWord

theorem filesOn_append (item : Text) (a b : List Text) :
    filesOn item (a ++ b) = filesOn item a ++ filesOn item b := by
  rw [filesOn, List.filter_append, List.map_append]
  rfl

theorem filesOn_eq_nil_iff :
    filesOn item lines = [] ↔ ∀ line ∈ lines, item.occursIn line = false := by
  rw [filesOn, List.map_eq_nil_iff, List.filter_eq_nil_iff]
  simp

/-- The lines up to the first one that closes the phase and carries no item. -/
def listed (phase : Phase) (item : Text) (lines : List Text) : List Text :=
  lines.takeWhile fun line => item.occursIn line || !phase.closes line

/-- The lines from which files are still listed when the phase, after the lines `inside`, has been
completed by the line `last`. A line that opens the phase is not looked at again. -/
def overrun (phase : Phase) (item : Text) (inside : List Text) (last : Text)
    (after : List Text) : List Text :=
  match inside with
  | [] => phase.listed item after
  | _ :: _ => phase.listed item (last :: after)

/-- **The listed files** are those strictly inside the phase and those of the overrun. -/
theorem changedFiles_eq_append (h : phase.Begins log before (inside ++ last :: after))
    (hinside : ∀ line ∈ inside, phase.closes line = false) (hlast : phase.closes last = true) :
    phase.changedFiles item log =
      filesOn item inside.tail ++ filesOn item (phase.overrun item inside last after) := by
  have hcompletes : phase.Completes log (inside ++ [last]) :=
    ⟨before, inside, last, after, h, rfl, hinside, hlast⟩
  rw [changedFiles_eq, if_pos hcompletes.status, h.dropWhile_eq, ← filesOn_append]
  cases inside with
  | nil => rfl
  | cons first inside =>
    rw [List.forall_mem_cons] at hinside
    -- no line inside the phase closes it, so all of them are looked at
    have hlisted : ∀ line ∈ inside, (item.occursIn line || !phase.closes line) = true := by
      intro line hline
      rw [hinside.2 line hline]
      simp
    rw [List.cons_append, List.drop_one, List.tail_cons, List.takeWhile_append_of_pos hlisted]
    rfl

/-- The overrun holds no item if the completing line does not open the phase and carries no item,
or if it opens the phase and the next item comes after a closing line of its own. -/
theorem not_item_overrun_iff (hlast : phase.closes last = true) :
    (∀ line ∈ phase.overrun item inside last after, item.occursIn line = false) ↔
      inside ≠ [] ∧ item.occursIn last = false ∨
        inside = [] ∧ ∀ line ∈ phase.listed item after, item.occursIn line = false := by
  cases inside with
  | nil => simp [overrun]
  | cons first inside =>
    cases hitem : item.occursIn last with
    | true => simp [overrun, listed, hitem]
    | false => simp [overrun, listed, hitem, hlast]

/-- **When exactly the files inside the phase are listed.** Nothing is listed if the phase is not
completed. If it is, the list is right unless the completing line carries an item, or opens the
phase too and is followed by an item before the phase is closed once more. -/
theorem changedFiles_exact_iff (phase : Phase) (item : Text) (log : List Text) :
    (phase.status log ≠ .passed → phase.changedFiles item log = []) ∧
      ∀ before inside last after, phase.Begins log before (inside ++ last :: after) →
        (∀ line ∈ inside, phase.closes line = false) → phase.closes last = true →
          (phase.changedFiles item log = filesOn item inside.tail ↔
            inside ≠ [] ∧ item.occursIn last = false ∨
              inside = [] ∧ ∀ line ∈ phase.listed item after, item.occursIn line = false) := by
  constructor
  · intro hstatus
    exact if_neg hstatus
  · intro before inside last after h hinside hlast
    rw [changedFiles_eq_append h hinside hlast, List.append_right_eq_self, filesOn_eq_nil_iff,
      not_item_overrun_iff hlast]

/-- Two files are listed, one of them twice, and a third one comes too late. -/
theorem changedFiles_exact_iff_late :
    ∃ log, changes.changedFiles changedFileItem log =
      ["a.cpp".toList, "b.py".toList, "a.cpp".toList] := by
  let opening : Text := "MSGBLD0070: Extract changed files."
  let inside : List Text := ["MSGBLD0095: File changed: a.cpp", "MSGBLD0095: File changed: b.py",
    "unrelated", "MSGBLD0095: File changed: a.cpp"]
  let last : Text := "MSGBLD0100: Changed files extracted."
  let after : List Text := ["MSGBLD0095: File changed: late.cpp"]
  let log : List Text := (opening :: inside) ++ last :: after
  have hbegins : changes.Begins log [] log := ⟨rfl, by simp, opening, rfl, by decide⟩
  have hexact := (changedFiles_exact_iff changes changedFileItem log).2 [] (opening :: inside) last
    after hbegins (by decide) (by decide)
  refine ⟨log, (hexact.mpr (.inl ⟨List.cons_ne_nil _ _, by decide⟩)).trans ?_⟩
  decide

/-- **A file behind the end of the phase may be listed**: the line that opens the phase completes
it, and is not looked at for its closing marker when the files are listed. -/
theorem not_forall_changedFiles_exact :
    ¬ ∀ (phase : Phase) (item : Text) (log before inside : List Text) (last : Text)
      (after : List Text), phase.Begins log before (inside ++ last :: after) →
        (∀ line ∈ inside, phase.closes line = false) → phase.closes last = true →
          phase.changedFiles item log = filesOn item inside.tail := by
  intro h
  let line : Text :=
    "MSGBLD0070: Extract changed files. MSGBLD0100: Changed files extracted."
  let late : Text := "MSGBLD0095: File changed: late.cpp"
  have hbegins : changes.Begins [line, late] [] [line, late] :=
    ⟨rfl, by simp, line, rfl, by decide⟩
  exact absurd (h changes changedFileItem _ [] [] line [late] hbegins nofun (by decide))
    (by decide)

end BuildSummary.Phase
