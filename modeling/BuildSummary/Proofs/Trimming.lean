import Mathlib.Data.List.DropRight
import Mathlib.Data.List.Induction
import BuildSummary.Text.Blank
import BuildSummary.Text.Lines

/-!
# Blanks at the ends of a text

Trimming takes blanks away and nothing else, so what a reader finds in a text does not depend on the
blanks at its end, if the reader looks for words, for what is trimmed anyway, or for a part that does
not end with a blank.

## Main results

* `Text.apply_trimEnd`: what a blank at the end does not change, no blanks at the end change
* `Text.occursIn_trimEnd`, `Text.words_trimEnd`, `Text.trim_trimEnd`: what they do not change
* `Text.trim_trim`, `Text.trim_isInfix`: a trimmed text is a part of the text, and trimmed
-/

namespace BuildSummary.Text

variable {c : Char} {part text : Text}

/-! ## Blanks at the end -/

theorem trimEnd_concat_of_isBlank (hc : isBlank c = true) (text : Text) :
    trimEnd (text ++ [c]) = trimEnd text :=
  List.rdropWhile_concat_pos isBlank text c hc

theorem trimEnd_concat_of_not_isBlank (hc : isBlank c = false) (text : Text) :
    trimEnd (text ++ [c]) = text ++ [c] :=
  List.rdropWhile_concat_neg isBlank text c (Bool.eq_false_iff.mp hc)

theorem trimEnd_append_of_forall (blanks : Text) (h : ∀ c ∈ blanks, isBlank c = true)
    (text : Text) : trimEnd (text ++ blanks) = trimEnd text := by
  induction blanks generalizing text with
  | nil => rw [List.append_nil]
  | cons c blanks ih =>
    rw [List.forall_mem_cons] at h
    rw [List.append_cons, ih h.2, trimEnd_concat_of_isBlank h.1]

/-- Nothing before a character that is no blank is trimmed away. -/
theorem trimEnd_append_cons (hc : isBlank c = false) (a b : Text) :
    trimEnd (a ++ c :: b) = a ++ c :: trimEnd b := by
  induction b using List.reverseRecOn with
  | nil => exact trimEnd_concat_of_not_isBlank hc a
  | append_singleton b d ih =>
    rw [← List.cons_append, ← List.append_assoc]
    cases hd : isBlank d with
    | true => rw [trimEnd_concat_of_isBlank hd, trimEnd_concat_of_isBlank hd, ih]
    | false =>
      rw [trimEnd_concat_of_not_isBlank hd, trimEnd_concat_of_not_isBlank hd, List.append_assoc,
        List.cons_append]

/-- **What a blank at the end does not change**, no blanks at the end change. -/
theorem apply_trimEnd {α : Type} {f : Text → α}
    (hf : ∀ text c, isBlank c = true → f (text ++ [c]) = f text) (text : Text) :
    f (trimEnd text) = f text := by
  induction text using List.reverseRecOn with
  | nil => rfl
  | append_singleton text c ih =>
    cases hc : isBlank c with
    | true => rw [trimEnd_concat_of_isBlank hc, ih, hf text c hc]
    | false => rw [trimEnd_concat_of_not_isBlank hc]

theorem trim_concat_of_isBlank (hc : isBlank c = true) (text : Text) :
    trim (text ++ [c]) = trim text := by
  rw [trim, trim, List.dropWhile_append]
  split
  · rename_i hempty
    rw [List.isEmpty_iff.mp hempty, List.dropWhile_cons_of_pos hc]
    rfl
  · exact trimEnd_concat_of_isBlank hc _

theorem trim_trimEnd (text : Text) : trim (trimEnd text) = trim text :=
  apply_trimEnd (fun text _ hc => trim_concat_of_isBlank hc text) text

theorem words_trimEnd (text : Text) : words (trimEnd text) = words text := by
  refine apply_trimEnd (fun text c hc => ?_) text
  rw [words_append_blank hc, words_nil, List.append_nil]

theorem lastWord_trimEnd (text : Text) : lastWord (trimEnd text) = lastWord text :=
  apply_trimEnd (fun text _ hc => lastWord_append_blank hc text) text

theorem trimEnd_dropReturn (text : Text) : trimEnd (dropReturn text) = trimEnd text := by
  unfold dropReturn
  split
  · rename_i hlast
    obtain ⟨init, rfl⟩ := List.getLast?_eq_some_iff.mp hlast
    rw [List.dropLast_concat, trimEnd_concat_of_isBlank (by decide)]
  · rfl

/-- **A part that does not end with a blank** is not found in the blanks at the end of a text. -/
theorem occursIn_trimEnd (hpart : trimEnd part = part) (text : Text) :
    part.occursIn (trimEnd text) = part.occursIn text := by
  refine apply_trimEnd (fun text c hc => ?_) text
  rw [Bool.eq_iff_iff, occursIn_iff_isInfix, occursIn_iff_isInfix, List.infix_concat_iff]
  constructor
  · rintro (hsuffix | hinfix)
    · rcases List.eq_nil_or_concat part with rfl | ⟨init, d, rfl⟩
      · exact List.nil_infix
      -- the part would end with the blank
      · rw [List.concat_eq_append] at hpart hsuffix
        have hlast : (trimEnd (init ++ [d])).getLast? = some d := by
          rw [hpart, List.getLast?_concat]
        have hd := isBlank_of_getLast?_trimEnd hlast
        obtain ⟨lead, hlead⟩ := hsuffix
        rw [← List.append_assoc] at hlead
        obtain rfl := List.singleton_inj.mp (List.append_inj' hlead rfl).2
        rw [hc] at hd
        cases hd
    · exact hinfix
  · exact .inr

/-! ## Blanks at both ends -/

/-- Trimming leaves a part of the text. -/
theorem trim_isInfix (text : Text) : trim text <:+: text :=
  (List.rdropWhile_prefix isBlank _).isInfix.trans (List.dropWhile_suffix isBlank).isInfix

/-- What is trimmed has no more blanks to trim. -/
theorem trim_trim (text : Text) : trim (trim text) = trim text :=
  calc
    trim (trim text) = trim (text.dropWhile isBlank) := trim_trimEnd _
    _ = trim text := congrArg trimEnd (List.dropWhile_idempotent isBlank text)

end BuildSummary.Text
