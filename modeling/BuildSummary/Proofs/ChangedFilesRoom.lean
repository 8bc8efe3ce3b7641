import Mathlib.Data.List.Chain
import BuildSummary.Proofs.BuildWidth
import BuildSummary.Proofs.LineRoom
import BuildSummary.Proofs.PlainWords

/-!
# The room of the changed files

The changed files are wrapped to the columns that the table of a build has left for them. The
cheapest lines may still be wider: two gaps that are wide enough cost more than one column too many.
So file names without escape sequences stay inside their column in all terminals of up to 56
columns, and in every wider one there are some that do not. An escape sequence in a name can leave
the column in any terminal: if a hyphen cuts it, the search takes the rest of it for the beginning
of a longer sequence, which hides the letters that follow.

## Main definitions

* `Wrap.farWords`: three words of which no two fit on a line
* `Report.ChangedFilesFit`: the changed files stay inside their column

## Main results

* `Wrap.exists_lt_columns_wrap`: in a wide room a line may be wider than the room
* `Report.changedFilesFit_terminals`: the terminals in which the changed files stay inside
* `Report.not_forall_changedFilesFit`: they do not in every terminal that is accepted
-/

namespace BuildSummary

/-! ## A line that is wider than its room -/

namespace Wrap

open LineBreak (BreakClass)
open Text (columns IsClosed)

variable {room : Nat} {fragments : List Fragment} {lines : List (List Fragment)}

/-- If no two neighbours fit on a line, lines that fit have one fragment each. -/
theorem IsCut.eq_map_singleton (h : IsCut fragments lines)
    (hapart : fragments.IsChain fun f g => room < f.columns + f.spaces + g.columns)
    (hfits : ∀ line ∈ lines, lineColumns line ≤ room) : lines = fragments.map fun f => [f] := by
  obtain ⟨rfl, hnil⟩ := h
  induction lines with
  | nil => rfl
  | cons line rest ih =>
    rw [List.mem_cons, not_or] at hnil
    rw [List.forall_mem_cons] at hfits
    obtain ⟨f, line, rfl⟩ := List.exists_cons_of_ne_nil (Ne.symm hnil.1)
    rw [List.flatten_cons] at hapart ⊢
    cases line with
    | nil =>
      rw [List.singleton_append, List.map_cons, ← ih hfits.2 hnil.2 hapart.tail]
    | cons g line =>
      have hfirst : g.columns ≤ lineColumns (g :: line) := by
        cases line <;> simp only [lineColumns] <;> omega
      have hcolumns : lineColumns (f :: g :: line) =
          f.columns + f.spaces + lineColumns (g :: line) := rfl
      have hfar : room < f.columns + f.spaces + g.columns := by
        simp only [List.cons_append, List.isChain_cons_cons] at hapart
        exact hapart.1
      have hfit := hfits.1
      omega

/-- Three words of which no two fit on a line: a sign that fills no column, more spaces than there
is room for, the sign again, and a word as wide as the room. -/
def farWords (room : Nat) : List Fragment :=
  [⟨['\u070F'], room + 1⟩, ⟨['\u070F'], 1⟩, ⟨List.replicate room 'b', 0⟩]

theorem columns_sign (n : Nat) : Fragment.columns ⟨['\u070F'], n⟩ = 0 := by
  show columns ['\u070F'] = 0
  decide +kernel

theorem columns_word (room : Nat) : Fragment.columns ⟨List.replicate room 'b', 0⟩ = room := by
  have hprintable : Text.IsPrintable (List.replicate room 'b') :=
    Text.isPrintable_replicate room (by decide)
  exact hprintable.columns_eq.trans List.length_replicate

theorem isPlain_of_mem_farWords (hroom : 0 < room) : ∀ f ∈ farWords room, f.IsPlain := by
  have hsign : BreakClass.ofChar '\u070F' = .letter := by decide +kernel
  have hletter : BreakClass.ofChar 'b' = .letter := by decide +kernel
  intro f hf
  simp only [farWords, List.mem_cons, List.not_mem_nil, or_false] at hf
  rcases hf with rfl | rfl | rfl
  · exact ⟨List.cons_ne_nil _ _, List.forall_mem_singleton.mpr hsign⟩
  · exact ⟨List.cons_ne_nil _ _, List.forall_mem_singleton.mpr hsign⟩
  · refine ⟨?_, fun c hc => ?_⟩
    · rw [ne_eq, List.replicate_eq_nil_iff]
      exact hroom.ne'
    · rw [List.eq_of_mem_replicate hc]
      exact hletter

theorem isClosed_of_mem_farWords (hroom : 0 < room) : ∀ f ∈ farWords room, IsClosed f.text :=
  fun f hf => Text.isClosed_of_not_mem fun hmem =>
    (ne_of_plain (.inl ((isPlain_of_mem_farWords hroom f hf).letter _ hmem))).1 rfl

theorem fragments_farWords (hroom : 0 < room) :
    Wrap.fragments room ((farWords room).flatMap Fragment.full) = farWords room := by
  refine fragments_flatMap_full (isPlain_of_mem_farWords hroom) ?_ (List.cons_ne_nil _ _) ?_
  · simp [farWords]
  · simp [farWords, columns_sign, columns_word]

/-- In a wide room the cheapest lines of words that are far apart are not those that fit. -/
theorem exists_lt_lineColumns (hroom : 28 ≤ room) (h : IsCheapest room (farWords room) lines) :
    ∃ line ∈ lines, room < lineColumns line := by
  by_contra hfits
  simp only [not_exists, not_and, Nat.not_lt] at hfits
  have hapart : (farWords room).IsChain fun f g => room < f.columns + f.spaces + g.columns := by
    simp [farWords, columns_sign, columns_word]
  have hsingle := h.toIsCut.eq_map_singleton hapart hfits
  have hcut : IsCut (farWords room)
      [[⟨['\u070F'], room + 1⟩, ⟨['\u070F'], 1⟩], [⟨List.replicate room 'b', 0⟩]] :=
    ⟨rfl, by simp⟩
  have hcost := h.cost_le _ hcut
  have hpos : 0 < room := Nat.lt_of_lt_of_le (by decide) hroom
  have hempty (isSingle : Bool) : lineCost room 0 false isSingle = lineBase + room * room :=
    lineCost_of_le_room hpos (Nat.zero_le room) false isSingle
  have hfull (isSingle : Bool) : lineCost room room true isSingle = lineBase := by
    have hquarter : ¬4 * room < room := by omega
    rw [lineCost_of_le_room hpos (Nat.le_refl room)]
    simp [hquarter]
  have hwide (isSingle : Bool) :
      lineCost room (room + 1) false isSingle = lineBase + overflowCost := by
    rw [lineCost_of_room_lt hpos (Nat.lt_add_one room), Nat.add_sub_cancel_left, Nat.one_mul]
  have hsquare := Nat.mul_le_mul hroom hroom
  simp only [hsingle, farWords, List.map_cons, List.map_nil, linesCost, lineColumns, columns_sign,
    columns_word, List.isEmpty_cons, List.isEmpty_nil, Nat.zero_add, Nat.add_zero] at hcost
  rw [hempty, hempty, hfull, hwide] at hcost
  unfold lineBase overflowCost at hcost
  omega

/-- Words that are far apart are laid out in their cheapest lines. -/
theorem wrap_farWords (hroom : 0 < room) :
    wrap room ((farWords room).flatMap Fragment.full) =
      (cheapest room (farWords room)).map lineText := by
  have hnewline : '\n' ∉ (farWords room).flatMap Fragment.full := by
    intro hmem
    have hplain := isPlain_flatMap_full (isPlain_of_mem_farWords hroom) '\n' hmem
    revert hplain
    decide +kernel
  have hlong : ¬Utf8.byteLength ((farWords room).flatMap Fragment.full) < room := by
    have hline : (farWords room).flatMap Fragment.full = lineText (farWords room) := by
      simp [farWords, lineText, Fragment.full]
    have hcolumns := columns_lineText (isClosed_of_mem_farWords hroom)
    have hbytes := Text.columnsFrom_le_byteLength .plain (lineText (farWords room))
    simp only [farWords, lineColumns, columns_sign, columns_word] at hcolumns
    rw [hline, Nat.not_lt]
    refine Nat.le_trans ?_ hbytes
    show room ≤ columns (lineText (farWords room))
    rw [farWords, hcolumns]
    omega
  have hlines : cheapest room (farWords room) ≠ [] := by
    intro hnil
    have hflatten := (isCheapest_cheapest room (farWords room)).flatten_eq
    rw [hnil] at hflatten
    cases hflatten
  rw [wrap, List.splitOn_eq_singleton hnewline, List.flatMap_singleton, wrapParagraph, if_neg hlong,
    fragments_farWords hroom]
  split
  · exact absurd ‹_› hlines
  · rfl

/-- **In a wide room a line may be wider than the room.** -/
theorem exists_lt_columns_wrap (hroom : 28 ≤ room) :
    ∃ text, '\x1b' ∉ text ∧
      ∃ line ∈ Text.lines (Text.join ['\n'] (wrap room text)), room < columns line := by
  have hpos : 0 < room := Nat.lt_of_lt_of_le (by decide) hroom
  have hplain := isPlain_flatMap_full (isPlain_of_mem_farWords hpos)
  have hcharacter {c : Char} (hc : ¬(BreakClass.ofChar c = .letter ∨ c = ' ')) :
      c ∉ (farWords room).flatMap Fragment.full := fun hmem => hc (hplain c hmem)
  have hcheapest := isCheapest_cheapest room (farWords room)
  obtain ⟨fs, hfs, hwide⟩ := exists_lt_lineColumns hroom hcheapest
  have hmem : lineText fs ∈ wrap room ((farWords room).flatMap Fragment.full) := by
    rw [wrap_farWords hpos]
    exact List.mem_map_of_mem hfs
  have hclosed : ∀ f ∈ fs, IsClosed f.text := fun f hf =>
    isClosed_of_mem_farWords hpos f (hcheapest.mem_of_mem hfs hf)
  rw [← columns_lineText hclosed] at hwide
  refine ⟨_, hcharacter (c := '\x1b') (by decide +kernel), lineText fs, ?_, hwide⟩
  refine Text.mem_lines_join ?_ hmem ?_ ?_
  · exact fun l hl => (subset_of_mem_wrap hl).1
  · rintro hnil
    rw [hnil] at hwide
    exact Nat.not_lt_zero _ hwide
  · intro hreturn
    exact hcharacter (c := '\r') (by decide +kernel) ((subset_of_mem_wrap hmem).2 hreturn)

/-- In no room does a text with escape sequences always fit: here a hyphen cuts a sequence. -/
theorem exists_lt_columns_wrap_escape (hroom : 0 < room) :
    ∃ text, ∃ line ∈ Text.lines (Text.join ['\n'] (wrap room text)), room < columns line := by
  rcases Nat.lt_or_ge room 28 with hnarrow | hwide
  · have hall : ∀ room < 28, 0 < room → ∃ line ∈ Text.lines (Text.join ['\n']
        (wrap room "\x1b[1-1\x1b]abcdefghijklmnopqrstuvwxyzab")), room < columns line := by
      decide +kernel
    exact ⟨_, hall room hnarrow hroom⟩
  · obtain ⟨text, -, hline⟩ := exists_lt_columns_wrap hwide
    exact ⟨text, hline⟩

end Wrap

/-! ## The changed files -/

namespace Report

open Text (columns join)

variable {terminal : Nat} {policy : Policy} {record : BuildRecord} {report : Report}

/-- The lines of the changed files are no wider than the column is in the given terminal. -/
def ChangedFilesFit (terminal : Nat) (report : Report) : Prop :=
  ∀ row, report.build[1]? = some row →
    ∀ line ∈ Text.lines row.value, columns line ≤ Table.room terminal report.build 1

/-- The room of the changed files does not depend on them. -/
theorem room_buildRows (h : minWidth ≤ terminal) (changedFiles : Text) :
    Table.room terminal (buildRows policy record changedFiles) 1 = terminal - margin := by
  unfold minWidth at h
  show Nat.max 1 (terminal - (Table.width _ + 0 + 7)) = terminal - 29
  rw [width_labels_buildRows]
  exact Nat.max_eq_right (by omega)

/-- The changed files are wrapped to what the terminal has beside the margin. -/
theorem changedFilesFit_iff (hterminal : minWidth ≤ terminal)
    (h : ofRecord (.bordered terminal) policy record = .ok report) :
    report.ChangedFilesFit terminal ↔
      ∀ line ∈ Text.lines (join ['\n']
          (Wrap.wrap (terminal - margin) (join ", " record.changedFiles))),
        columns line ≤ terminal - margin := by
  obtain ⟨-, rfl⟩ := ofRecord_eq_ok_iff.mp h
  have hcell : changedFilesText (.bordered terminal) policy record =
      join ['\n'] (Wrap.wrap (terminal - margin) (join ", " record.changedFiles)) := by
    rw [← room_buildRows hterminal []]
    rfl
  have hbuild : (assemble (.bordered terminal) policy record).build =
      buildRows policy record (changedFilesText (.bordered terminal) policy record) := rfl
  have hrow (changedFiles : Text) :
      (buildRows policy record changedFiles)[1]? = some ⟨[], changedFiles⟩ := rfl
  unfold ChangedFilesFit
  rw [hbuild, room_buildRows hterminal, ← hcell, hrow]
  constructor
  · intro hfit
    have hlines := hfit _ rfl
    exact hlines
  · intro hfit row hsome
    obtain rfl := Option.some.inj hsome
    exact hfit

/-- A file name of which a line is too wide leaves the column. -/
theorem exists_not_changedFilesFit (hterminal : minWidth ≤ terminal) {text : Text}
    (h : ∃ line ∈ Text.lines (join ['\n'] (Wrap.wrap (terminal - margin) text)),
      terminal - margin < columns line) :
    ∃ record report, record.changedFiles = [text] ∧
      ofRecord (.bordered terminal) {} record = .ok report ∧
      ¬ report.ChangedFilesFit terminal := by
  let record : BuildRecord := { changedFiles := [text] }
  have hreport : ofRecord (.bordered terminal) {} record =
      .ok (assemble (.bordered terminal) {} record) := rfl
  refine ⟨record, _, rfl, hreport, fun hfit => ?_⟩
  rw [changedFilesFit_iff hterminal hreport, Text.join_singleton] at hfit
  obtain ⟨line, hline, hlong⟩ := h
  exact absurd (hfit line hline) (Nat.not_le.mpr hlong)

/-- **The terminals in which the changed files stay inside their column**: none, if any file names
may occur, and exactly those of up to 56 columns, if no name has an escape sequence. -/
theorem changedFilesFit_terminals (h : minWidth ≤ terminal) :
    (∃ policy record report, ofRecord (.bordered terminal) policy record = .ok report ∧
        ¬ report.ChangedFilesFit terminal) ∧
      ((∀ policy record report, (∀ file ∈ record.changedFiles, '\x1b' ∉ file) →
          ofRecord (.bordered terminal) policy record = .ok report →
          report.ChangedFilesFit terminal) ↔ terminal ≤ 56) := by
  have hroom : 11 ≤ terminal - margin := by
    unfold minWidth at h
    unfold margin
    omega
  refine ⟨?_, fun hfit => ?_, fun hnarrow policy record report hescape hreport => ?_⟩
  · have hpos : 0 < terminal - margin := Nat.lt_of_lt_of_le (by decide) hroom
    obtain ⟨text, hline⟩ := Wrap.exists_lt_columns_wrap_escape hpos
    obtain ⟨record, report, -, hreport, hnot⟩ := exists_not_changedFilesFit h hline
    exact ⟨{}, record, report, hreport, hnot⟩
  · by_contra hwide
    have hroom : 28 ≤ terminal - margin := by
      unfold margin
      omega
    obtain ⟨text, hescape, hline⟩ := Wrap.exists_lt_columns_wrap hroom
    obtain ⟨record, report, hfiles, hreport, hnot⟩ := exists_not_changedFilesFit h hline
    refine hnot (hfit {} record report ?_ hreport)
    rw [hfiles]
    exact List.forall_mem_singleton.mpr hescape
  · rw [changedFilesFit_iff h hreport]
    intro line hline
    have hnarrow : terminal - margin ≤ 27 := by
      unfold margin
      omega
    have hlist : '\x1b' ∉ join ", " record.changedFiles := Text.not_mem_join (by decide) hescape
    exact Wrap.columns_le_of_mem_lines_wrap (Nat.le_trans (by decide) hroom) hnarrow hlist hline

/-- In the widest of these terminals a list that is wider than its column is broken. -/
theorem changedFilesFit_broken :
    ∃ record report, record.changedFiles = [("nestkernel/nest.cpp" : Text), "models/iaf.h"] ∧
      ofRecord (.bordered 56) {} record = .ok report ∧
      report.build[1]? = some ⟨[], "nestkernel/nest.cpp,\nmodels/iaf.h"⟩ ∧
      report.ChangedFilesFit 56 := by
  let record : BuildRecord := { changedFiles := ["nestkernel/nest.cpp", "models/iaf.h"] }
  have hreport : ofRecord (.bordered 56) {} record =
      .ok (assemble (.bordered 56) {} record) := rfl
  have hterminal : minWidth ≤ 56 := by decide
  obtain ⟨-, hfit⟩ := changedFilesFit_terminals hterminal
  have hcell : (assemble (.bordered 56) {} record).build[1]? =
      some ⟨[], "nestkernel/nest.cpp,\nmodels/iaf.h"⟩ := by
    decide +kernel
  have hescape : ∀ file ∈ record.changedFiles, '\x1b' ∉ file := by decide
  exact ⟨record, _, rfl, hreport, hcell, hfit.mpr (Nat.le_refl 56) {} record _ hescape hreport⟩

/-- **The changed files do not always stay inside their column**: in a terminal of 80 columns a
short name and a long one share a line. -/
theorem not_forall_changedFilesFit :
    ¬ ∀ terminal policy record report, minWidth ≤ terminal →
      ofRecord (.bordered terminal) policy record = .ok report →
      report.ChangedFilesFit terminal := by
  intro h
  let record : BuildRecord :=
    { changedFiles := ["sli.h", "models_iaf_cond_exp_sfa_rr_multisynapse_x.cpp"] }
  have hreport : ofRecord (.bordered 80) {} record =
      .ok (assemble (.bordered 80) {} record) := rfl
  have hlines := (changedFilesFit_iff (by decide) hreport).mp
    (h 80 {} record _ (by decide) hreport)
  revert hlines
  decide +kernel

end Report

end BuildSummary
