import Mathlib.Data.List.TakeDrop
import BuildSummary.Proofs.Fragments

/-!
# Plain words

Words of letters with spaces between them are the simplest paragraphs: a line may be broken where a
word begins after spaces and nowhere else, no word has a hyphen, and no escape sequence hides a
character. If the words fit on a line, they are the fragments of the paragraph.

## Main definitions

* `LineBreak.IsPlain`: a text of letters and spaces
* `LineBreak.innerEnds`: after which of its characters but the last a line may be broken
* `Wrap.Fragment.IsPlain`: a word of letters

## Main results

* `LineBreak.allows_plain`: between letters and spaces a line is broken only before a word
* `Wrap.fragments_flatMap_full`: plain words that fit are the fragments of their paragraph
-/

namespace BuildSummary

/-! ## Opportunities between letters and spaces -/

namespace LineBreak

/-- The clusters of letters and spaces without marks. -/
def plainClusters : List Cluster :=
  [.ofClass .letter, .ofClass .space]

/-- Before the spaces at the left of a gap stands a letter, if anything. -/
theorem beforeSpaces_plain (gap : Gap) (h : ∀ c ∈ gap.before, c ∈ plainClusters) :
    gap.beforeSpaces = [] ∨ ∃ rest, gap.beforeSpaces = .ofClass .letter :: rest := by
  obtain ⟨before, after⟩ := gap
  show before.dropWhile _ = [] ∨ ∃ rest, before.dropWhile _ = _
  induction before with
  | nil => exact .inl rfl
  | cons c before ih =>
    rw [List.forall_mem_cons] at h
    obtain ⟨hc, hbefore⟩ := h
    simp only [plainClusters, List.mem_cons, List.not_mem_nil, or_false] at hc
    rcases hc with rfl | rfl
    · exact .inr ⟨before, rfl⟩
    · exact ih hbefore

/-- **Between letters and spaces** a line is broken only before a word. -/
theorem allows_plain {a b : Cluster} {before : List Cluster} (ha : a ∈ plainClusters)
    (hb : b ∈ plainClusters) (hbefore : ∀ c ∈ before, c ∈ plainClusters) (after : List Cluster) :
    Gap.allows ⟨a :: before, b :: after⟩ = (a.cls = .space && b.cls ≠ .space) := by
  have hspaces := beforeSpaces_plain ⟨a :: before, b :: after⟩
    (List.forall_mem_cons.mpr ⟨ha, hbefore⟩)
  simp only [plainClusters, List.mem_cons, List.not_mem_nil, or_false] at ha hb
  rcases ha with rfl | rfl <;> rcases hb with rfl | rfl
  · rfl
  · rfl
  -- what stands before the spaces is looked at, in case that it holds the word
  · unfold Gap.allows Gap.afterOpens Gap.isBridged Gap.forced
    rcases hspaces with h | ⟨rest, h⟩ <;> rw [h] <;> rfl
  · rfl

/-- For each character but the last, whether a word begins after it and the spaces before it. -/
def innerEnds : Text → List Bool
  | c :: d :: rest => (c = ' ' && d ≠ ' ') :: innerEnds (d :: rest)
  | _ => []

/-- A text of letters and spaces. -/
def IsPlain (text : Text) : Prop :=
  ∀ c ∈ text, BreakClass.ofChar c = .letter ∨ c = ' '

/-- The cluster of a letter or space. -/
def plainCluster (c : Char) : Cluster :=
  .ofClass (BreakClass.ofChar c)

theorem plainCluster_mem {c : Char} (h : BreakClass.ofChar c = .letter ∨ c = ' ') :
    plainCluster c ∈ plainClusters := by
  unfold plainCluster
  rcases h with h | rfl
  · rw [h]
    exact List.mem_cons_self
  · exact List.mem_cons_of_mem _ List.mem_cons_self

theorem cls_plainCluster {c : Char} (h : BreakClass.ofChar c = .letter ∨ c = ' ') :
    (plainCluster c).cls = .space ↔ c = ' ' := by
  unfold plainCluster
  rcases h with h | rfl
  · have hc : c ≠ ' ' := by
      rintro rfl
      revert h
      decide
    rw [h]
    simp [Cluster.ofClass, hc]
  · decide

/-- Each character of a plain text is a cluster. -/
theorem ofText_plain {text : Text} (h : IsPlain text) :
    Cluster.ofText text = text.map plainCluster := by
  have hgroup (cluster : Cluster) (rest : Text) (h : IsPlain rest) :
      cluster.group (rest.map BreakClass.ofChar) = cluster :: rest.map plainCluster := by
    induction rest generalizing cluster with
    | nil => rfl
    | cons c rest ih =>
      obtain ⟨hc, hrest⟩ := List.forall_mem_cons.mp h
      have hmark : (BreakClass.ofChar c).isMark = false := by
        rcases hc with hc | rfl
        · rw [hc]
          rfl
        · decide
      rw [List.map_cons, Cluster.group, hmark, Bool.false_and, if_neg Bool.false_ne_true,
        ih _ hrest]
      rfl
  cases text with
  | nil => rfl
  | cons c rest => exact hgroup _ rest (List.forall_mem_cons.mp h).2

theorem opportunitiesFrom_plain {before : List Cluster} (hbefore : ∀ c ∈ before, c ∈ plainClusters)
    {c : Char} {rest : Text} (h : IsPlain (c :: rest)) :
    opportunitiesFrom before ((c :: rest).map plainCluster) = innerEnds (c :: rest) ++ [true] := by
  induction rest generalizing before c with
  | nil => rfl
  | cons d rest ih =>
    obtain ⟨hc, hrest⟩ := List.forall_mem_cons.mp h
    obtain ⟨hd, -⟩ := List.forall_mem_cons.mp hrest
    have hcluster := plainCluster_mem hc
    have hnext : ∀ cluster ∈ plainCluster c :: before, cluster ∈ plainClusters :=
      List.forall_mem_cons.mpr ⟨hcluster, hbefore⟩
    have hallows := allows_plain hcluster (plainCluster_mem hd) hbefore (rest.map plainCluster)
    simp only [cls_plainCluster hc, ne_eq, cls_plainCluster hd] at hallows
    have hlater : ∀ cluster ∈ (if Gap.isAfterCircles ⟨plainCluster c :: before,
        (d :: rest).map plainCluster⟩ then [] else plainCluster c :: before),
        cluster ∈ plainClusters := by
      split
      · exact fun _ hmem => absurd hmem List.not_mem_nil
      · exact hnext
    rw [List.map_cons, opportunitiesFrom, ih hlater hrest]
    exact congrArg (· :: (innerEnds (d :: rest) ++ [true])) hallows

/-- **In a plain text** a line may be broken where a word begins after spaces, and at the end. -/
theorem opportunities_plain {text : Text} (h : IsPlain text) (hne : text ≠ []) :
    opportunities text = innerEnds text ++ [true] := by
  unfold opportunities
  rw [ofText_plain h]
  obtain ⟨c, rest, rfl⟩ := List.exists_cons_of_ne_nil hne
  exact opportunitiesFrom_plain (fun _ hmem => absurd hmem List.not_mem_nil) h

theorem innerEnds_cons_of_ne {c : Char} (h : c ≠ ' ') {rest : Text} (hne : rest ≠ []) :
    innerEnds (c :: rest) = false :: innerEnds rest := by
  obtain ⟨d, rest, rfl⟩ := List.exists_cons_of_ne_nil hne
  simp [innerEnds, h]

/-- No word begins inside a word or at its end. -/
theorem innerEnds_word_append {word : Text} (h : ' ' ∉ word) {rest : Text} (hne : rest ≠ []) :
    innerEnds (word ++ rest) = List.replicate word.length false ++ innerEnds rest := by
  induction word with
  | nil => rfl
  | cons c word ih =>
    rw [List.mem_cons, not_or] at h
    rw [List.cons_append, innerEnds_cons_of_ne (Ne.symm h.1) (by simp [hne]), ih h.2]
    rfl

/-- A word begins after spaces. -/
theorem innerEnds_spaces_append {d : Char} (h : d ≠ ' ') (n : Nat) (rest : Text) :
    innerEnds (List.replicate (n + 1) ' ' ++ d :: rest) =
      List.replicate n false ++ true :: innerEnds (d :: rest) := by
  induction n with
  | zero => simp [innerEnds, h]
  | succ n ih =>
    calc innerEnds (List.replicate (n + 2) ' ' ++ d :: rest)
      _ = false :: innerEnds (List.replicate (n + 1) ' ' ++ d :: rest) := rfl
      _ = List.replicate (n + 1) false ++ true :: innerEnds (d :: rest) := by
        rw [ih]
        rfl

/-- The next word begins after the last space. -/
theorem innerEnds_append_space {word : Text} (h : ' ' ∉ word) {d : Char} (hd : d ≠ ' ') (n : Nat)
    (rest : Text) :
    innerEnds (word ++ List.replicate n ' ' ++ ' ' :: d :: rest) =
      List.replicate (word ++ List.replicate n ' ').length false ++
        true :: innerEnds (d :: rest) := by
  calc innerEnds (word ++ List.replicate n ' ' ++ ' ' :: d :: rest)
    _ = innerEnds (word ++ (List.replicate (n + 1) ' ' ++ d :: rest)) := by
      rw [List.replicate_succ', List.append_assoc, List.append_assoc, List.singleton_append]
    _ = List.replicate word.length false ++
        (List.replicate n false ++ true :: innerEnds (d :: rest)) := by
      rw [innerEnds_word_append h (by simp), innerEnds_spaces_append hd]
    _ = _ := by
      rw [← List.append_assoc, List.replicate_append_replicate, List.length_append,
        List.length_replicate]

/-- No word begins after the last one. -/
theorem not_mem_innerEnds {word : Text} (h : ' ' ∉ word) (n : Nat) :
    true ∉ innerEnds (word ++ List.replicate n ' ') := by
  induction word with
  | nil =>
    induction n with
    | zero => exact List.not_mem_nil
    | succ n ih =>
      cases n with
      | zero => exact List.not_mem_nil
      | succ n => simpa [List.replicate_succ, innerEnds] using ih
  | cons c word ih =>
    rw [List.mem_cons, not_or] at h
    by_cases hne : word ++ List.replicate n ' ' = []
    · rw [List.cons_append, hne]
      exact List.not_mem_nil
    · rw [List.cons_append, innerEnds_cons_of_ne (Ne.symm h.1) hne, List.mem_cons, not_or]
      exact ⟨Bool.noConfusion, ih h.2⟩

end LineBreak

namespace Wrap

open LineBreak (BreakClass IsPlain innerEnds)
open Text (Mode)

/-! ## Words -/

theorem clearLast_concat (marks : List Bool) : clearLast (marks ++ [true]) = marks ++ [false] := by
  unfold clearLast
  rw [List.span_eq_takeWhile_dropWhile, List.reverse_concat]
  simp

/-- No plain character begins an escape sequence or is a hyphen. -/
theorem ne_of_plain {c : Char} (h : BreakClass.ofChar c = .letter ∨ c = ' ') :
    c ≠ '\x1b' ∧ c ≠ '-' ∧ c ≠ '\xad' := by
  rcases h with h | rfl
  · refine ⟨?_, ?_, ?_⟩ <;> (rintro rfl; revert h; decide +kernel)
  · decide

/-- What holds no escape character is shown as it stands. -/
theorem shown_eq_self {text : Text} (h : '\x1b' ∉ text) : Text.shown text = text := by
  unfold Text.shown
  induction text with
  | nil => rfl
  | cons c rest ih =>
    rw [List.mem_cons, not_or] at h
    have hshows : Mode.plain.shows c = true := by simp [Mode.shows, Ne.symm h.1]
    rw [Text.shownFrom, if_pos hshows, (eq_plain_of_shows hshows).2, ih h.2]

theorem wordEnds_plain {text : Text} (h : IsPlain text) (hne : text ≠ []) :
    wordEnds text = innerEnds text ++ [false] := by
  have hmarks : (text.zip (LineBreak.opportunities text)).map
      (fun mark => mark.2 && mark.1 ≠ '-' && mark.1 ≠ '\xad') = LineBreak.opportunities text := by
    calc (text.zip (LineBreak.opportunities text)).map
          (fun mark => mark.2 && mark.1 ≠ '-' && mark.1 ≠ '\xad')
      _ = (text.zip (LineBreak.opportunities text)).map Prod.snd := by
        refine List.map_congr_left fun mark hmem => ?_
        obtain ⟨-, hhyphen, hsoft⟩ := ne_of_plain (h mark.1 (List.of_mem_zip hmem).1)
        simp [hhyphen, hsoft]
      _ = LineBreak.opportunities text :=
        List.map_snd_zip (LineBreak.length_opportunities text).le
  calc wordEnds text
    _ = clearLast (LineBreak.opportunities text) := congrArg clearLast hmarks
    _ = innerEnds text ++ [false] := by
      rw [LineBreak.opportunities_plain h hne, clearLast_concat]

/-- Without marks nothing is cut. -/
theorem cutAfter_of_not_mem {marks : List Bool} (h : true ∉ marks) (mode : Mode)
    (part text : Text) : cutAfter marks mode part text = [part.reverse ++ text] := by
  induction text generalizing marks mode part with
  | nil => simp [cutAfter]
  | cons c rest ih =>
    by_cases hshows : mode.shows c = true
    · rcases marks with _ | ⟨_ | _, marks⟩
      · simp [cutAfter, hshows, ih]
      · rw [List.mem_cons, not_or] at h
        simp [cutAfter, hshows, ih h.2]
      · exact absurd List.mem_cons_self h
    · simp [cutAfter, hshows, ih h]

/-- A mark cuts after its character. -/
theorem cutAfter_append {piece : Text} (h : '\x1b' ∉ piece) {c : Char} (hc : c ≠ '\x1b')
    (marks : List Bool) (part rest : Text) :
    cutAfter (List.replicate piece.length false ++ true :: marks) .plain part (piece ++ c :: rest) =
      (part.reverse ++ piece ++ [c]) :: cutAfter marks .plain [] rest := by
  have hshows {c : Char} (hc : c ≠ '\x1b') : Mode.plain.shows c = true := by simp [Mode.shows, hc]
  induction piece generalizing part with
  | nil => simp [cutAfter, hshows hc, (eq_plain_of_shows (hshows hc)).2]
  | cons d piece ih =>
    rw [List.mem_cons, not_or] at h
    have hd := hshows (Ne.symm h.1)
    simp [cutAfter, hd, (eq_plain_of_shows hd).2, List.replicate_succ, ih h.2]

/-- A word of letters, with spaces after it. -/
structure Fragment.IsPlain (f : Fragment) : Prop where
  text_ne_nil : f.text ≠ []
  letter : ∀ c ∈ f.text, BreakClass.ofChar c = .letter

namespace Fragment.IsPlain

variable {f : Fragment}

theorem not_mem (h : f.IsPlain) : ' ' ∉ f.text := by
  intro hmem
  have hspace := h.letter ' ' hmem
  revert hspace
  decide

theorem full (h : f.IsPlain) : LineBreak.IsPlain f.full := by
  intro c hc
  rcases List.mem_append.mp hc with hc | hc
  · exact .inl (h.letter c hc)
  · exact .inr (List.eq_of_mem_replicate hc)

theorem ofText_full (h : f.IsPlain) : ofText f.full = f := by
  refine ofText_append_replicate (fun hlast => ?_) f.spaces
  exact h.not_mem (List.mem_of_getLast? hlast)

theorem cutAtHyphens_eq (h : f.IsPlain) : f.cutAtHyphens = [f] := by
  have hhyphen : ∀ c ∈ f.text, c ≠ '-' := fun c hc => (ne_of_plain (.inl (h.letter c hc))).2.1
  have hcut (inWord : Bool) (part text : Text) (htext : ∀ c ∈ text, c ≠ '-') :
      cutHyphens inWord part text = [part.reverse ++ text] := by
    induction text generalizing inWord part with
    | nil => simp [cutHyphens]
    | cons c rest ih =>
      obtain ⟨hc, hrest⟩ := List.forall_mem_cons.mp htext
      simp [cutHyphens, hc, ih _ _ hrest]
  rw [cutAtHyphens, hcut false [] f.text hhyphen]
  rfl

end Fragment.IsPlain

theorem isPlain_flatMap_full {fs : List Fragment} (h : ∀ f ∈ fs, f.IsPlain) :
    LineBreak.IsPlain (fs.flatMap Fragment.full) := by
  intro c hc
  obtain ⟨f, hf, hmem⟩ := List.mem_flatMap.mp hc
  exact (h f hf).full c hmem

/-- The words of a plain paragraph. -/
theorem wordsOf_flatMap_full {fs : List Fragment} (hplain : ∀ f ∈ fs, f.IsPlain)
    (hspaces : ∀ f ∈ fs.dropLast, 0 < f.spaces) (hne : fs ≠ []) :
    wordsOf (fs.flatMap Fragment.full) = fs.map Fragment.full := by
  have htext := isPlain_flatMap_full hplain
  have hescape : '\x1b' ∉ fs.flatMap Fragment.full := fun hmem => (ne_of_plain (htext _ hmem)).1 rfl
  have hnil : fs.flatMap Fragment.full ≠ [] := by
    obtain ⟨f, rest, rfl⟩ := List.exists_cons_of_ne_nil hne
    simp [Fragment.full, (hplain f List.mem_cons_self).text_ne_nil]
  unfold wordsOf
  rw [shown_eq_self hescape, wordEnds_plain htext hnil]
  clear htext hescape hnil
  induction fs with
  | nil => exact absurd rfl hne
  | cons f rest ih =>
    obtain ⟨hf, hrest⟩ := List.forall_mem_cons.mp hplain
    cases rest with
    | nil =>
      have hmarks : true ∉ innerEnds f.full ++ [false] := by
        rw [List.mem_append, not_or]
        exact ⟨LineBreak.not_mem_innerEnds hf.not_mem f.spaces, by simp⟩
      rw [List.flatMap_singleton, cutAfter_of_not_mem hmarks]
      rfl
    | cons next rest =>
      rw [List.dropLast_cons_cons, List.forall_mem_cons] at hspaces
      obtain ⟨n, hn⟩ := Nat.exists_eq_add_one.mpr hspaces.1
      have hplain := hrest next List.mem_cons_self
      obtain ⟨d, tail, hnext⟩ := List.exists_cons_of_ne_nil hplain.text_ne_nil
      have hd : d ≠ ' ' := by
        rintro rfl
        exact hplain.not_mem (hnext ▸ List.mem_cons_self)
      have hlater : (next :: rest).flatMap Fragment.full =
          d :: (tail ++ List.replicate next.spaces ' ' ++ rest.flatMap Fragment.full) := by
        rw [List.flatMap_cons, Fragment.full, hnext]
        rfl
      have hfull : f.full = f.text ++ List.replicate n ' ' ++ [' '] := by
        rw [Fragment.full, hn, List.replicate_succ', List.append_assoc]
      have hescape : '\x1b' ∉ f.text ++ List.replicate n ' ' := by
        intro hmem
        have hplain := hf.full '\x1b' (hfull ▸ List.mem_append_left _ hmem)
        exact (ne_of_plain hplain).1 rfl
      have ih := ih hrest hspaces.2 (List.cons_ne_nil _ _)
      rw [List.map_cons, ← ih, hlater, List.flatMap_cons, hlater, hfull, List.append_assoc,
        List.singleton_append, LineBreak.innerEnds_append_space hf.not_mem hd, List.append_assoc,
        List.cons_append, cutAfter_append hescape (by decide)]
      rfl

/-- **Plain words that fit** are the fragments of their paragraph. -/
theorem fragments_flatMap_full {room : Nat} {fs : List Fragment} (hplain : ∀ f ∈ fs, f.IsPlain)
    (hspaces : ∀ f ∈ fs.dropLast, 0 < f.spaces) (hne : fs ≠ [])
    (hfits : ∀ f ∈ fs, f.columns ≤ room) : fragments room (fs.flatMap Fragment.full) = fs := by
  unfold fragments
  rw [wordsOf_flatMap_full hplain hspaces hne, List.map_map]
  have hwords : fs.map (Fragment.ofText ∘ Fragment.full) = fs :=
    (List.map_congr_left fun f hf => (hplain f hf).ofText_full).trans (List.map_id' fs)
  have hhyphens : fs.flatMap Fragment.cutAtHyphens = fs :=
    (List.flatMap_congr fun f hf => (hplain f hf).cutAtHyphens_eq).trans
      (List.flatMap_singleton' fs)
  have hfit : fs.flatMap (Fragment.fit room) = fs :=
    (List.flatMap_congr fun f hf => if_neg (Nat.not_lt.mpr (hfits f hf))).trans
      (List.flatMap_singleton' fs)
  rw [hwords, hhyphens, hfit]

end Wrap

end BuildSummary
