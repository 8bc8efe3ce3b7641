/-!
# Texts

A text is a list of characters, so that every reader of this library is a recursion on it. This
file holds what all readers share: where a part occurs in a text, and the code point order in
which reports list files and messages.

## Main definitions

* `Text.occursIn`: a part stands somewhere in a text without a break
* `Text.before`: the strict code point order
* `Text.join`: texts with a separator between them

## Main results

* `Text.occursIn_iff_isInfix`: occurring is being an infix
* `Text.occursIn_append_of_not_mem`, `Text.occursIn_append_cons`: what occurs in texts put together
* `Text.before_irrefl`, `Text.before_trans`, `Text.before_connex`: `before` is a strict total order
-/

namespace BuildSummary

/-- A text is the list of its characters. -/
abbrev Text := List Char

/-- A string literal stands for its characters. -/
instance : Coe String Text := ⟨String.toList⟩

namespace Text

/-! ## Occurrence -/

/-- Whether `part` stands somewhere in a text without a break; the empty part stands in each. -/
def occursIn (part : Text) : Text → Bool
  | [] => part.isEmpty
  | c :: rest => part.isPrefixOf (c :: rest) || occursIn part rest

/-- Occurring is being an infix. -/
theorem occursIn_iff_isInfix {part text : Text} : part.occursIn text = true ↔ part <:+: text := by
  induction text with
  | nil => simp [occursIn, List.isEmpty_iff]
  | cons c rest ih => simp [occursIn, ih, List.infix_cons_iff, List.isPrefixOf_iff_prefix]

/-- A part does not occur in a text that lacks one of its characters. -/
theorem occursIn_eq_false_of_not_mem {c : Char} {part text : Text} (hc : c ∈ part)
    (h : c ∉ text) : part.occursIn text = false := by
  rw [Bool.eq_false_iff, ne_eq, occursIn_iff_isInfix]
  intro hpart
  exact h (hpart.subset hc)

/-- A text has no other part of its length than itself. -/
theorem occursIn_iff_eq_of_length_eq {part text : Text} (h : part.length = text.length) :
    part.occursIn text = true ↔ part = text := by
  rw [occursIn_iff_isInfix]
  constructor
  · intro hpart
    exact hpart.eq_of_length h
  · rintro rfl
    exact List.infix_rfl

/-- A part stands nowhere before its first character does. -/
theorem occursIn_append_of_not_mem {p : Char} {part a : Text} (h : p ∉ a) (b : Text) :
    occursIn (p :: part) (a ++ b) = occursIn (p :: part) b := by
  induction a with
  | nil => rfl
  | cons c rest ih =>
    rw [List.mem_cons, not_or] at h
    rw [List.cons_append, occursIn, ih h.2]
    simp [h.1]

/-- What begins two parts of a text that are apart begins the first of them. -/
theorem prefix_append_cons_iff {c : Char} {part : Text} (hc : c ∉ part) (a b : Text) :
    part <+: a ++ c :: b ↔ part <+: a := by
  constructor
  · intro h
    have ha : a <+: a ++ c :: b := List.prefix_append a (c :: b)
    rcases List.prefix_or_prefix_of_prefix h ha with hpart | ⟨rest, rfl⟩
    · exact hpart
    -- a longer part would go on with the character that it lacks
    · rw [List.prefix_append_right_inj] at h
      cases rest with
      | nil => simp
      | cons d rest =>
        rw [List.cons_prefix_cons] at h
        exact absurd (h.1 ▸ List.mem_append_right a List.mem_cons_self) hc
  · intro h
    exact h.trans (List.prefix_append a (c :: b))

/-- **A part that lacks a character** occurs in a text with that character if it occurs before or
after it. -/
theorem occursIn_append_cons {c : Char} {part : Text} (hne : part ≠ []) (hc : c ∉ part)
    (a b : Text) : part.occursIn (a ++ c :: b) = (part.occursIn a || part.occursIn b) := by
  obtain ⟨p, rest, rfl⟩ := List.exists_cons_of_ne_nil hne
  induction a with
  | nil =>
    have hp : p ≠ c := by
      rintro rfl
      exact hc List.mem_cons_self
    simp [occursIn, hp]
  | cons d a ih =>
    -- at each position, what follows the character cannot be reached from before it
    have hprefix :
        (p :: rest).isPrefixOf (d :: (a ++ c :: b)) = (p :: rest).isPrefixOf (d :: a) := by
      rw [Bool.eq_iff_iff, List.isPrefixOf_iff_prefix, List.isPrefixOf_iff_prefix]
      exact prefix_append_cons_iff hc (d :: a) b
    rw [List.cons_append, occursIn, occursIn, ih, hprefix, Bool.or_assoc]

/-! ## Code point order -/

/-- Code point order: the first difference decides, and a proper beginning comes first. -/
def before : Text → Text → Bool
  | _, [] => false
  | [], _ :: _ => true
  | a :: as, b :: bs => a.toNat < b.toNat || (a == b && before as bs)

theorem before_irrefl (a : Text) : before a a = false := by
  induction a with
  | nil => rfl
  | cons c rest ih => simp [before, ih]

theorem before_trans {a b c : Text} (hab : before a b = true) (hbc : before b c = true) :
    before a c = true := by
  induction a generalizing b c with
  | nil =>
    cases b with
    | nil => simp [before] at hab
    | cons y ys => cases c <;> simp_all [before]
  | cons x xs ih =>
    cases b with
    | nil => simp [before] at hab
    | cons y ys =>
      cases c with
      | nil => simp [before] at hbc
      | cons z zs =>
        simp only [before, Bool.or_eq_true, decide_eq_true_eq, Bool.and_eq_true, beq_iff_eq]
          at hab hbc ⊢
        rcases hab with hab | ⟨rfl, hab⟩ <;> rcases hbc with hbc | ⟨rfl, hbc⟩
        · exact .inl (Nat.lt_trans hab hbc)
        · exact .inl hab
        · exact .inl hbc
        · exact .inr ⟨rfl, ih hab hbc⟩

/-- Of two different texts one comes first. -/
theorem before_connex {a b : Text} (h : a ≠ b) : before a b = true ∨ before b a = true := by
  induction a generalizing b with
  | nil =>
    cases b with
    | nil => exact absurd rfl h
    | cons y ys => exact .inl rfl
  | cons x xs ih =>
    cases b with
    | nil => exact .inr rfl
    | cons y ys =>
      simp only [before, Bool.or_eq_true, decide_eq_true_eq, Bool.and_eq_true, beq_iff_eq]
      by_cases hxy : x = y
      · subst hxy
        have := ih fun e => h (by rw [e])
        simpa using this
      · have : x.toNat ≠ y.toNat := fun e => hxy (Char.toNat_inj.mp e)
        omega

/-! ## Joining -/

/-- The texts in order, with `separator` between neighbours. -/
def join (separator : Text) (parts : List Text) : Text :=
  separator.intercalate parts

theorem join_singleton (separator part : Text) : join separator [part] = part :=
  List.intercalate_singleton

theorem join_cons_cons (separator first next : Text) (rest : List Text) :
    join separator (first :: next :: rest) = first ++ (separator ++ join separator (next :: rest)) :=
  List.intercalate_cons_cons.trans (List.append_assoc ..)

end Text

end BuildSummary
