import BuildSummary.Text.Basic

/-!
# Blanks, trimming and words

Blanks are the characters with the Unicode property White_Space. Words are the longest stretches
without a blank.

## Main definitions

* `Text.isBlank`: the class of blanks
* `Text.trim`, `Text.trimEnd`: a text without the blanks around it, or without those at its end
* `Text.words`, `Text.lastWord`: the words of a text, and the last of them

## Main results

* `Text.trim_cons_of_isBlank`, `Text.head?_trim_cons`: what trimming does at the front
* `Text.words_append_blank`: words end at a blank
* `Text.not_blank_of_mem_words`, `Text.isBlank_of_words_eq_nil`: words are what is not blank
* `Text.lastWord_append_cons`, `Text.lastWord_append_blank`: which word is the last
-/

namespace BuildSummary.Text

/-- The Unicode property White_Space. -/
def isBlank (c : Char) : Bool :=
  let n := c.toNat
  (0x09 ≤ n && n ≤ 0x0D) || n == 0x20 || n == 0x85 || n == 0xA0 || n == 0x1680 ||
    (0x2000 ≤ n && n ≤ 0x200A) || n == 0x2028 || n == 0x2029 || n == 0x202F || n == 0x205F ||
    n == 0x3000

/-- The text without the blanks at its end. -/
def trimEnd (text : Text) : Text :=
  (text.reverse.dropWhile isBlank).reverse

/-- The text without the blanks around it. -/
def trim (text : Text) : Text :=
  trimEnd (text.dropWhile isBlank)

/-- The longest stretches without a blank, in order. -/
def words (text : Text) : List Text :=
  (text.splitOnP isBlank).filter (!·.isEmpty)

/-- The last word, or the empty text if there is no word. -/
def lastWord (text : Text) : Text :=
  text.words.getLast?.getD []

/-! ## Trimming -/

/-- A blank at the front is trimmed away. -/
theorem trim_cons_of_isBlank {c : Char} (hc : isBlank c = true) (text : Text) :
    trim (c :: text) = trim text := by
  simp [trim, hc]

/-- A text that does not begin with a blank keeps its first character. -/
theorem head?_trim_cons {c : Char} (hc : isBlank c = false) (text : Text) :
    (trim (c :: text)).head? = some c := by
  have hdrop (rest : Text) : ((rest ++ [c]).dropWhile isBlank).getLast? = some c := by
    induction rest with
    | nil => simp [hc]
    | cons d rest ih =>
      rw [List.cons_append, List.dropWhile_cons]
      cases isBlank d with
      | true => exact ih
      | false =>
        rw [if_neg (by simp), ← List.cons_append]
        exact List.getLast?_concat
  rw [trim, List.dropWhile_cons_of_neg (by simp [hc]), trimEnd, List.head?_reverse,
    List.reverse_cons]
  exact hdrop text.reverse

theorem isBlank_of_getLast?_trimEnd {c : Char} {text : Text}
    (h : (trimEnd text).getLast? = some c) : isBlank c = false := by
  rw [trimEnd, List.getLast?_reverse] at h
  have hhead := List.head?_dropWhile_not isBlank text.reverse
  rw [h] at hhead
  exact hhead

/-- A trimmed text does not end with a blank. -/
theorem isBlank_of_getLast?_trim {c : Char} {text : Text} (h : (trim text).getLast? = some c) :
    isBlank c = false :=
  isBlank_of_getLast?_trimEnd h

/-! ## Words end at blanks -/

/-- **Words end at a blank.** Everything about `words` follows from this equation. -/
theorem words_append_blank {c : Char} (hc : isBlank c = true) (a b : Text) :
    words (a ++ c :: b) = words a ++ words b := by
  unfold words
  rw [List.splitOnP_append_cons a b hc, List.filter_append]

@[simp] theorem words_nil : words [] = [] := rfl

/-- A nonempty text without a blank is one word. -/
theorem words_of_not_blank {word : Text} (hne : word ≠ [])
    (h : ∀ c ∈ word, isBlank c = false) : words word = [word] := by
  rw [words, List.splitOnP_eq_singleton h]
  cases word with
  | nil => exact absurd rfl hne
  | cons c rest => rfl

/-- Words have no blanks. -/
theorem not_blank_of_mem_words {word text : Text} (h : word ∈ words text) :
    ∀ c ∈ word, isBlank c = false := by
  replace h := (List.mem_filter.mp h).1
  induction text generalizing word with
  | nil =>
    rw [List.splitOnP_nil, List.mem_singleton] at h
    rw [h]
    nofun
  | cons c rest ih =>
    rw [List.splitOnP_cons_eq_if_modifyHead] at h
    obtain ⟨piece, pieces, hpieces⟩ := List.exists_cons_of_ne_nil (List.splitOnP_ne_nil isBlank rest)
    rw [hpieces] at h ih
    split at h
    · rcases List.mem_cons.mp h with rfl | h
      · nofun
      · exact ih h
    -- the first character goes on with the first piece
    · rename_i hc
      rcases List.mem_cons.mp h with rfl | h
      · exact List.forall_mem_cons.mpr ⟨Bool.eq_false_iff.mpr hc, ih List.mem_cons_self⟩
      · exact ih (List.mem_cons_of_mem piece h)

/-- A text without words has nothing but blanks. -/
theorem isBlank_of_words_eq_nil {text : Text} (h : words text = []) :
    ∀ c ∈ text, isBlank c = true := by
  rw [words, List.filter_eq_nil_iff] at h
  induction text with
  | nil => nofun
  | cons c rest ih =>
    rw [List.splitOnP_cons_eq_if_modifyHead] at h
    split at h
    · rename_i hc
      rw [List.forall_mem_cons] at h
      exact List.forall_mem_cons.mpr ⟨hc, ih h.2⟩
    -- a character that is no blank would stand in the first piece
    · obtain ⟨piece, pieces, hpieces⟩ :=
        List.exists_cons_of_ne_nil (List.splitOnP_ne_nil isBlank rest)
      rw [hpieces, List.modifyHead_cons] at h
      exact absurd rfl (h (c :: piece) List.mem_cons_self)

/-- The word after the last blank is the last word. -/
theorem lastWord_append_cons {c : Char} (hc : isBlank c = true) (text : Text) {word : Text}
    (hne : word ≠ []) (h : ∀ c ∈ word, isBlank c = false) :
    lastWord (text ++ c :: word) = word := by
  unfold lastWord
  rw [words_append_blank hc, words_of_not_blank hne h]
  simp

/-- A blank at the end changes no word. -/
theorem lastWord_append_blank {c : Char} (hc : isBlank c = true) (text : Text) :
    lastWord (text ++ [c]) = lastWord text := by
  unfold lastWord
  rw [words_append_blank hc, words_nil, List.append_nil]

/-- A word: it is not empty and has no blank. -/
structure IsWord (text : Text) : Prop where
  ne_nil : text ≠ []
  not_blank : ∀ c ∈ text, isBlank c = false

theorem isWord_iff {text : Text} : IsWord text ↔ text ≠ [] ∧ text.any isBlank = false := by
  constructor
  · intro h
    exact ⟨h.ne_nil, by simpa using h.not_blank⟩
  · rintro ⟨hne, hblank⟩
    exact ⟨hne, by simpa using hblank⟩

instance : DecidablePred IsWord := fun _ => decidable_of_iff _ isWord_iff.symm

/-- The last word of a text that has more than blanks is a word. -/
theorem isWord_lastWord {c : Char} {text : Text} (hmem : c ∈ text) (hc : isBlank c = false) :
    IsWord (lastWord text) := by
  have hne : words text ≠ [] := by
    intro hnil
    rw [isBlank_of_words_eq_nil hnil c hmem] at hc
    cases hc
  have hlast : lastWord text ∈ words text := by
    rw [lastWord, List.getLast?_eq_some_getLast hne]
    exact List.getLast_mem hne
  have hword := (List.mem_filter.mp hlast).2
  refine ⟨?_, not_blank_of_mem_words hlast⟩
  rintro hnil
  rw [hnil] at hword
  cases hword

end BuildSummary.Text
