import Mathlib.Data.List.Induction
import Mathlib.Order.Nat
import BuildSummary.Proofs.TableWidth
import BuildSummary.Text.Wrap

/-!
# The fragments of a paragraph

A paragraph is cut into fragments in three rounds: into words, after hyphens, and inside what is
wider than a line. No round drops or adds a character, whatever marks it follows and in whichever
escape sequence it cuts, so the fragments with their spaces are the paragraph. In a room of at least
three columns, which is as wide as a character can be, every fragment fits on a line.

## Main results

* `Wrap.flatMap_full_fragments`: the fragments of a paragraph are the paragraph
* `Wrap.columns_le_of_mem_fragments`: a fragment fits on a line
-/

namespace BuildSummary.Wrap

open Text (Mode columns modeAfter charColumns)

/-! ## Nothing is lost by cutting -/

theorem flatten_cutAfter (marks : List Bool) (mode : Mode) (part text : Text) :
    (cutAfter marks mode part text).flatten = part.reverse ++ text := by
  induction text generalizing marks mode part with
  | nil => simp [cutAfter]
  | cons c rest ih =>
    by_cases hshows : mode.shows c = true
    -- only a mark that is set cuts
    · rcases marks with _ | ⟨_ | _, marks⟩ <;> simp [cutAfter, hshows, ih]
    · simp [cutAfter, hshows, ih]

theorem flatten_wordsOf (paragraph : Text) : (wordsOf paragraph).flatten = paragraph :=
  flatten_cutAfter _ _ _ _

theorem flatten_cutHyphens (inWord : Bool) (part text : Text) :
    (cutHyphens inWord part text).flatten = part.reverse ++ text := by
  induction text generalizing inWord part with
  | nil => simp [cutHyphens]
  | cons c rest ih =>
    rw [cutHyphens]
    split <;> simp [ih]

theorem cutHyphens_ne_nil (inWord : Bool) (part text : Text) :
    cutHyphens inWord part text ≠ [] := by
  induction text generalizing inWord part with
  | nil => exact List.cons_ne_nil _ _
  | cons c rest ih =>
    rw [cutHyphens]
    split
    · exact List.cons_ne_nil _ _
    · exact ih _ _

theorem flatten_cutColumns (room : Nat) (mode : Mode) (used : Nat) (part text : Text) :
    (cutColumns room mode used part text).flatten = part.reverse ++ text := by
  induction text generalizing mode used part with
  | nil => simp [cutColumns]
  | cons c rest ih =>
    rw [cutColumns]
    split <;> simp [ih]

theorem cutColumns_ne_nil (room : Nat) (mode : Mode) (used : Nat) (part text : Text) :
    cutColumns room mode used part text ≠ [] := by
  induction text generalizing mode used part with
  | nil => exact List.cons_ne_nil _ _
  | cons c rest ih =>
    rw [cutColumns]
    split
    · exact List.cons_ne_nil _ _
    · exact ih _ _ _

/-! ## Nothing is lost by reading parts as fragments -/

namespace Fragment

/-- A text that ends in no space, and spaces after it, are a fragment as they stand. -/
theorem ofText_append_replicate {text : Text} (h : text.getLast? ≠ some ' ') (n : Nat) :
    ofText (text ++ List.replicate n ' ') = ⟨text, n⟩ := by
  have hbody : ((text ++ List.replicate n ' ').reverse.dropWhile (· = ' ')).reverse = text := by
    rw [List.reverse_append, List.reverse_replicate, List.dropWhile_append_of_pos (by simp)]
    rw [List.getLast?_eq_head?_reverse] at h
    cases htext : text.reverse with
    | nil => simpa using htext
    | cons c rest =>
      rw [htext, List.head?_cons, ne_eq, Option.some.injEq] at h
      rw [List.dropWhile_cons_of_neg (by simpa using h), ← htext, List.reverse_reverse]
  rw [ofText, hbody, List.length_append, List.length_replicate, Nat.add_sub_cancel_left]

theorem exists_eq_append_replicate (text : Text) :
    ∃ body n, body.getLast? ≠ some ' ' ∧ text = body ++ List.replicate n ' ' := by
  induction text using List.reverseRecOn with
  | nil => exact ⟨[], 0, by simp, rfl⟩
  | append_singleton text c ih =>
    by_cases hc : c = ' '
    · obtain ⟨body, n, hbody, rfl⟩ := ih
      refine ⟨body, n + 1, hbody, ?_⟩
      rw [hc, List.append_assoc, ← List.replicate_succ']
    · exact ⟨text ++ [c], 0, by simpa using hc, by simp⟩

/-- A text with its spaces set apart is the text. -/
theorem full_ofText (text : Text) : (ofText text).full = text := by
  obtain ⟨body, n, hbody, rfl⟩ := exists_eq_append_replicate text
  rw [ofText_append_replicate hbody]
  rfl

theorem flatMap_full_ofParts (spaces : Nat) {parts : List Text} (h : parts ≠ []) :
    (ofParts spaces parts).flatMap full = parts.flatten ++ List.replicate spaces ' ' := by
  induction parts with
  | nil => exact absurd rfl h
  | cons part rest ih =>
    cases rest with
    | nil => simp [ofParts, full]
    | cons next rest =>
      rw [ofParts, List.flatMap_cons, ih (List.cons_ne_nil _ _), List.flatten_cons,
        List.append_assoc]
      · simp [full]
      · simp

theorem flatMap_full_cutAtHyphens (f : Fragment) : f.cutAtHyphens.flatMap full = f.full := by
  rw [cutAtHyphens, flatMap_full_ofParts _ (cutHyphens_ne_nil _ _ _), flatten_cutHyphens]
  rfl

theorem flatMap_full_fit (room : Nat) (f : Fragment) : (f.fit room).flatMap full = f.full := by
  unfold fit
  split
  · rw [flatMap_full_ofParts _ (cutColumns_ne_nil _ _ _ _ _), flatten_cutColumns]
    rfl
  · exact List.flatMap_singleton _ _

end Fragment

/-- **The fragments of a paragraph are the paragraph**: none of its characters is dropped, added or
moved. -/
theorem flatMap_full_fragments (room : Nat) (paragraph : Text) :
    (fragments room paragraph).flatMap Fragment.full = paragraph := by
  unfold fragments
  rw [List.flatMap_assoc, List.flatMap_assoc, List.flatMap_map]
  calc (wordsOf paragraph).flatMap (fun word => (Fragment.ofText word).cutAtHyphens.flatMap
          fun f => (f.fit room).flatMap Fragment.full)
    _ = (wordsOf paragraph).flatMap id := by
      refine List.flatMap_congr fun word _ => ?_
      simp only [Fragment.flatMap_full_fit, Fragment.flatMap_full_cutAtHyphens,
        Fragment.full_ofText, id]
    _ = paragraph := by
      rw [List.flatMap_id, flatten_wordsOf]

/-! ## Fragments fit -/

theorem charColumns_le_three (c : Char) : charColumns c ≤ 3 := by
  grind [charColumns]

/-- A character is shown only outside escape sequences, and does not begin one. -/
theorem eq_plain_of_shows {mode : Mode} {c : Char} (h : mode.shows c = true) :
    mode = .plain ∧ mode.next c = .plain := by
  unfold Mode.shows at h
  rw [Bool.and_eq_true, decide_eq_true_eq, decide_eq_true_eq] at h
  obtain ⟨rfl, hc⟩ := h
  exact ⟨rfl, if_neg hc⟩

theorem columns_concat (text : Text) (c : Char) :
    columns (text ++ [c]) = columns text + (modeAfter .plain text).columns c := by
  unfold columns
  rw [Text.columnsFrom_append]
  rfl

theorem modeAfter_concat (text : Text) (c : Char) :
    modeAfter .plain (text ++ [c]) = (modeAfter .plain text).next c := by
  rw [Text.modeAfter_append]
  rfl

/-- Parts that are cut off are no wider than the room, if the part that is begun is not. -/
theorem columns_le_of_mem_cutColumns {room used : Nat} {mode : Mode} {part text piece : Text}
    (hroom : 3 ≤ room) (hmode : modeAfter .plain part.reverse = mode)
    (hused : columns part.reverse = used) (hle : used ≤ room)
    (h : piece ∈ cutColumns room mode used part text) : columns piece ≤ room := by
  induction text generalizing mode used part with
  | nil =>
    rw [List.mem_singleton.mp h, hused]
    exact hle
  | cons c rest ih =>
    have hc : charColumns c ≤ room := (charColumns_le_three c).trans hroom
    rw [cutColumns] at h
    split at h
    · rename_i hcut
      simp only [Bool.and_eq_true, decide_eq_true_eq] at hcut
      obtain ⟨rfl, hnext⟩ := eq_plain_of_shows hcut.1.1
      rcases List.mem_cons.mp h with rfl | h
      · exact hused.trans_le hle
      · have hbegun : modeAfter .plain [c].reverse = Mode.plain.next c := rfl
        refine ih hbegun ?_ hc h
        show Mode.plain.columns c + 0 = charColumns c
        rw [Nat.add_zero, Mode.columns, if_pos hcut.1.1]
    · rename_i hkept
      simp only [Bool.and_eq_true, decide_eq_true_eq, not_and] at hkept
      refine ih ?_ ?_ ?_ h
      · rw [List.reverse_cons, modeAfter_concat, hmode]
      · rw [List.reverse_cons, columns_concat, hmode, hused]
      · unfold Mode.columns
        split
        · rename_i hshows
          -- the part is empty, or it has room for the character
          have hfits := fun hpos => hkept ⟨hshows, hpos⟩
          omega
        · exact hle

theorem columns_le_of_mem_ofParts {room spaces : Nat} {parts : List Text} {f : Fragment}
    (hparts : ∀ part ∈ parts, columns part ≤ room) (h : f ∈ Fragment.ofParts spaces parts) :
    f.columns ≤ room := by
  induction parts with
  | nil => cases h
  | cons part rest ih =>
    rw [List.forall_mem_cons] at hparts
    cases rest with
    | nil =>
      rw [List.mem_singleton.mp h]
      exact hparts.1
    | cons next rest =>
      rw [Fragment.ofParts] at h
      rcases List.mem_cons.mp h with rfl | h
      · exact hparts.1
      · exact ih hparts.2 h
      · simp

/-- **A fragment fits on a line**, if the room is at least as wide as the widest character. -/
theorem columns_le_of_mem_fragments {room : Nat} {paragraph : Text} {f : Fragment}
    (hroom : 3 ≤ room) (h : f ∈ fragments room paragraph) : f.columns ≤ room := by
  obtain ⟨whole, -, hfit⟩ := List.mem_flatMap.mp h
  unfold Fragment.fit at hfit
  split at hfit
  · refine columns_le_of_mem_ofParts (fun piece hpiece => ?_) hfit
    have hbegun : modeAfter .plain ([] : Text).reverse = .plain := rfl
    exact columns_le_of_mem_cutColumns hroom hbegun rfl (Nat.zero_le _) hpiece
  · rename_i hle
    rw [List.mem_singleton.mp hfit]
    exact Nat.not_lt.mp hle

end BuildSummary.Wrap
