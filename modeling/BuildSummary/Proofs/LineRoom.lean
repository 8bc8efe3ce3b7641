import BuildSummary.Proofs.CheapestLines
import BuildSummary.Proofs.Fragments

/-!
# How wide wrapped lines are

A line that is wider than its room is not forbidden, it only costs more. Cutting it in two saves at
least the cost of one column and adds at most the cost of a line and the squares of two gaps. In a
room of up to 27 columns that is always worth it, since `1000 + 2 * 27 ^ 2 < 2500`, so that no line
is wider than its room there. A text with escape sequences is left out: where a sequence is cut, the
parts need not fill the columns that they fill together.

## Main results

* `Wrap.columns_lineText`: the columns of a line
* `Wrap.IsCheapest.lineColumns_le`: in a narrow room the cheapest lines fit
* `Wrap.columns_le_of_mem_lines_wrap`: in a narrow room a wrapped text fits
-/

namespace BuildSummary

namespace Text

/-! ## Texts without escape sequences -/

theorem isClosed_of_not_mem {text : Text} (h : '\x1b' ∉ text) : IsClosed text := by
  induction text with
  | nil => rfl
  | cons c rest ih =>
    rw [List.mem_cons, not_or] at h
    have hnext : Mode.plain.next c = .plain := if_neg (Ne.symm h.1)
    show modeAfter (Mode.plain.next c) rest = .plain
    rw [hnext]
    exact ih h.2

/-- No character fills more columns than it takes bytes. -/
theorem charColumns_le_utf8Size (c : Char) : charColumns c ≤ c.utf8Size := by
  have hsize : c.utf8Size =
      if c.toNat ≤ 127 then 1 else if c.toNat ≤ 2047 then 2
      else if c.toNat ≤ 65535 then 3 else 4 := by
    simp only [Char.utf8Size, UInt32.le_iff_toNat_le]
    rfl
  grind [charColumns]

theorem columns_prefix_le {a b : Text} (h : a <+: b) : columns a ≤ columns b := by
  obtain ⟨rest, rfl⟩ := h
  unfold columns
  rw [columnsFrom_append]
  exact Nat.le_add_right _ _

theorem columnsFrom_le_byteLength (mode : Mode) (text : Text) :
    columnsFrom mode text ≤ Utf8.byteLength text := by
  have hfold (text : Text) (n : Nat) :
      text.foldl (fun n c => n + c.utf8Size) n = n + Utf8.byteLength text := by
    unfold Utf8.byteLength
    induction text generalizing n with
    | nil => rfl
    | cons c rest ih =>
      rw [List.foldl_cons, List.foldl_cons, ih, ih (0 + c.utf8Size)]
      omega
  induction text generalizing mode with
  | nil => exact Nat.le_refl 0
  | cons c rest ih =>
    have hbytes : Utf8.byteLength (c :: rest) = c.utf8Size + Utf8.byteLength rest := by
      rw [Utf8.byteLength, List.foldl_cons, hfold, Nat.zero_add]
    have hc : mode.columns c ≤ c.utf8Size := by
      unfold Mode.columns
      split
      · exact charColumns_le_utf8Size c
      · exact Nat.zero_le _
    rw [hbytes]
    exact Nat.add_le_add hc (ih _)

/-! ## Lines that are joined -/

theorem not_mem_join {c : Char} {separator : Text} (hseparator : c ∉ separator) {parts : List Text}
    (h : ∀ part ∈ parts, c ∉ part) : c ∉ join separator parts := by
  induction parts with
  | nil => exact List.not_mem_nil
  | cons part rest ih =>
    rw [List.forall_mem_cons] at h
    cases rest with
    | nil =>
      rw [join_singleton]
      exact h.1
    | cons next rest =>
      rw [join_cons_cons, List.mem_append, List.mem_append, not_or, not_or]
      exact ⟨h.1, hseparator, ih h.2⟩

/-- Lines that are joined are read back, at most without a carriage return at their end. -/
theorem exists_prefix_of_mem_lines_join {ls : List Text} (hnewline : ∀ l ∈ ls, '\n' ∉ l)
    {line : Text} (h : line ∈ lines (join ['\n'] ls)) : ∃ l ∈ ls, line <+: l := by
  have hdrop (text : Text) : dropReturn text <+: text := by
    unfold dropReturn
    split
    · exact List.dropLast_prefix text
    · exact List.prefix_refl text
  by_cases hne : ls = []
  · subst hne
    rw [join, List.intercalate_nil, lines_nil] at h
    cases h
  · unfold lines join at h
    rw [List.splitOn_intercalate '\n' hnewline hne] at h
    rcases List.mem_append.mp h with h | h
    · obtain ⟨l, hl, rfl⟩ := List.mem_map.mp h
      exact ⟨l, List.dropLast_subset ls hl, hdrop l⟩
    · refine ⟨line, ?_, List.prefix_refl line⟩
      exact List.mem_of_getLast? (Option.mem_toList.mp (List.mem_filter.mp h).1)

/-- A line is read back from lines that are joined, unless it is empty or ends with a carriage
return. -/
theorem mem_lines_join {ls : List Text} {line : Text} (hnewline : ∀ l ∈ ls, '\n' ∉ l)
    (hmem : line ∈ ls) (hne : line ≠ []) (hreturn : '\r' ∉ line) :
    line ∈ lines (join ['\n'] ls) := by
  have hline : dropReturn line = line := if_neg fun hlast => hreturn (List.mem_of_getLast? hlast)
  unfold lines join
  rw [List.splitOn_intercalate '\n' hnewline (List.ne_nil_of_mem hmem)]
  obtain ⟨front, last, rfl⟩ := (List.eq_nil_or_concat' ls).resolve_left (List.ne_nil_of_mem hmem)
  simp only [List.dropLast_concat, List.getLast?_concat]
  rcases List.mem_append.mp hmem with h | h
  · exact List.mem_append_left _ (List.mem_map.mpr ⟨line, h, hline⟩)
  · refine List.mem_append_right _ ?_
    rw [← List.mem_singleton.mp h]
    simp [hne]

end Text

namespace Wrap

open Text (columns columns_prefix_le IsClosed)

variable {room : Nat} {a b line : List Fragment} {lines : List (List Fragment)}

/-! ## The columns of a line -/

theorem Fragment.columns_full {f : Fragment} (h : IsClosed f.text) :
    Text.columns f.full = f.columns + f.spaces := by
  have hspaces : Text.IsPrintable (List.replicate f.spaces ' ') :=
    Text.isPrintable_replicate f.spaces (by decide)
  rw [full, h.columns_append, hspaces.columns_eq, List.length_replicate]
  rfl

theorem Fragment.isClosed_full {f : Fragment} (h : IsClosed f.text) : IsClosed f.full :=
  h.append (Text.isPrintable_replicate f.spaces (by decide)).isClosed

/-- **The columns of a line** are those of its fragments and of the spaces between them. -/
theorem columns_lineText (h : ∀ f ∈ line, IsClosed f.text) :
    columns (lineText line) = lineColumns line := by
  induction line with
  | nil => rfl
  | cons f rest ih =>
    rw [List.forall_mem_cons] at h
    cases rest with
    | nil => rfl
    | cons next rest =>
      calc columns (lineText (f :: next :: rest))
        _ = columns f.full + columns (lineText (next :: rest)) :=
          (Fragment.isClosed_full h.1).columns_append _
        _ = lineColumns (f :: next :: rest) := by
          rw [Fragment.columns_full h.1, ih h.2]
          rfl

theorem lineColumns_append (a : List Fragment) (hb : b ≠ []) :
    lineColumns (a ++ b) = lineColumns a + endSpaces a + lineColumns b := by
  induction b using List.reverseRecOn with
  | nil => exact absurd rfl hb
  | append_singleton b f ih =>
    by_cases hb : b = []
    · rw [hb, List.nil_append, lineColumns_concat]
      rfl
    · have hspaces : endSpaces (a ++ b) = endSpaces b := by
        unfold endSpaces
        rw [List.getLast?_append_of_ne_nil _ hb]
      rw [← List.append_assoc, lineColumns_concat, lineColumns_concat, ih hb, hspaces]
      omega

/-! ## Cutting a line that is too wide -/

/-- A line of fragments that fit can be cut where it begins to be too wide. -/
theorem exists_cut (hfits : ∀ f ∈ line, f.columns ≤ room) (h : room < lineColumns line) :
    ∃ a b, line = a ++ b ∧ a ≠ [] ∧ b ≠ [] ∧ lineColumns a ≤ room ∧
      0 < lineColumns a + endSpaces a := by
  induction line using List.reverseRecOn with
  | nil => exact absurd h (Nat.not_lt_zero _)
  | append_singleton front f ih =>
    rw [List.forall_mem_append, List.forall_mem_singleton] at hfits
    by_cases hfront : room < lineColumns front
    · obtain ⟨a, b, rfl, ha, -, hroom, hpos⟩ := ih hfits.1 hfront
      exact ⟨a, b ++ [f], by simp, ha, by simp, hroom, hpos⟩
    · rw [lineColumns_concat] at h
      have hne : front ≠ [] := by
        rintro rfl
        have hf := hfits.2
        simp only [lineColumns, endSpaces, List.getLast?_nil, Option.map_none, Option.getD_none]
          at h
        omega
      have hf := hfits.2
      exact ⟨front, [f], rfl, hne, by simp, by omega, by omega⟩

/-- Each column that is too many costs the same. -/
theorem lineCost_of_room_lt {used : Nat} (hroom : 0 < room) (h : room < used)
    (isLast isSingle : Bool) :
    lineCost room used isLast isSingle = lineBase + (used - room) * overflowCost := by
  have hmax : Nat.max room 1 = room := Nat.max_eq_left hroom
  rw [lineCost_of_lt (by rwa [hmax]), hmax]

/-- A line that fits costs its gap, unless it is the last. -/
theorem lineCost_of_le_room {used : Nat} (hroom : 0 < room) (h : used ≤ room)
    (isLast isSingle : Bool) :
    lineCost room used isLast isSingle = lineBase +
      if !isLast then (room - used) * (room - used)
      else if isSingle && 4 * used < room then shortLastCost else 0 := by
  have hmax : Nat.max room 1 = room := Nat.max_eq_left hroom
  unfold lineCost
  simp only [hmax]
  rw [if_neg (Nat.not_lt.mpr h)]

/-- A line that fits costs at most the square of the room. -/
theorem lineCost_le {used : Nat} (hroom : 5 ≤ room) (h : used ≤ room) (isLast isSingle : Bool) :
    lineCost room used isLast isSingle ≤ lineBase + room * room := by
  have hsquare : shortLastCost ≤ room * room := Nat.mul_le_mul hroom hroom
  have hgap : (room - used) * (room - used) ≤ room * room :=
    Nat.mul_le_mul (Nat.sub_le room used) (Nat.sub_le room used)
  rw [lineCost_of_le_room (Nat.lt_of_lt_of_le (by decide) hroom) h]
  refine Nat.add_le_add_left ?_ _
  split
  · exact hgap
  · split
    · exact hsquare
    · exact Nat.zero_le _

/-- **Cutting a line that is too wide** is worth it in a narrow room. -/
theorem lineCost_cut_lt {front gap back : Nat} (hroom : 5 ≤ room) (hnarrow : room ≤ 27)
    (hfront : front ≤ room) (hpos : 0 < front + gap) (h : room < front + gap + back)
    (isLast isSingle isSingle' isSingle'' : Bool) :
    lineCost room front false isSingle + lineCost room back isLast isSingle' <
      lineCost room (front + gap + back) isLast isSingle'' := by
  have hroom' : 0 < room := Nat.lt_of_lt_of_le (by decide) hroom
  have hsquare : lineBase + room * room + (lineBase + room * room) < lineBase + overflowCost := by
    have := Nat.mul_le_mul hnarrow hnarrow
    unfold lineBase overflowCost
    omega
  have hcost := lineCost_le hroom hfront false isSingle
  rw [lineCost_of_room_lt hroom' h]
  rcases Nat.lt_or_ge room back with hback | hback
  -- the back is still too wide, by fewer columns
  · rw [lineCost_of_room_lt hroom' hback, Nat.add_sub_assoc hback.le, Nat.add_mul]
    have hsaved : overflowCost ≤ (front + gap) * overflowCost := Nat.le_mul_of_pos_left _ hpos
    omega
  · have hcost' := lineCost_le hroom hback isLast isSingle'
    have hsaved : overflowCost ≤ (front + gap + back - room) * overflowCost :=
      Nat.le_mul_of_pos_left _ (Nat.sub_pos_of_lt h)
    omega

/-- **In a narrow room the cheapest lines fit**, if the fragments do. -/
theorem IsCheapest.lineColumns_le {fragments : List Fragment} (hroom : 5 ≤ room)
    (hnarrow : room ≤ 27) (hfits : ∀ f ∈ fragments, f.columns ≤ room)
    (h : IsCheapest room fragments lines) : ∀ line ∈ lines, lineColumns line ≤ room := by
  intro line hline
  by_contra hwide
  rw [Nat.not_le] at hwide
  obtain ⟨front, back, rfl⟩ := List.append_of_mem hline
  have hfragments : ∀ f ∈ line, f.columns ≤ room := fun f hf => hfits f (h.mem_of_mem hline hf)
  obtain ⟨a, b, rfl, ha, hb, haroom, hpos⟩ := exists_cut hfragments hwide
  rw [lineColumns_append a hb] at hwide
  have hcut : IsCut fragments (front ++ a :: b :: back) := by
    refine ⟨?_, ?_⟩
    · rw [← h.flatten_eq]
      simp
    · have hmem := h.not_nil_mem
      simp only [List.mem_append, List.mem_cons, not_or] at hmem ⊢
      exact ⟨hmem.1, ha.symm, hb.symm, hmem.2.2⟩
  have hcost := h.cost_le _ hcut
  rw [linesCost_append front (List.cons_ne_nil _ _), linesCost_append front (List.cons_ne_nil _ _),
    linesCost, linesCost, linesCost, lineColumns_append a hb] at hcost
  have hless := lineCost_cut_lt hroom hnarrow haroom hpos hwide back.isEmpty
    (a.length = 1) (b.length = 1) ((a ++ b).length = 1)
  have hempty : (b :: back).isEmpty = false := rfl
  rw [hempty] at hcost
  omega

/-! ## The lines of a text -/

theorem lineText_subset (line : List Fragment) : lineText line ⊆ line.flatMap Fragment.full := by
  induction line with
  | nil => exact List.Subset.refl _
  | cons f rest ih =>
    cases rest with
    | nil =>
      rw [List.flatMap_singleton]
      exact List.subset_append_left _ _
    | cons next rest =>
      refine List.append_subset.mpr ⟨List.subset_append_left _ _, ?_⟩
      exact List.Subset.trans ih (List.subset_append_right f.full _)

/-- A line of a paragraph is the paragraph, if that is short enough, or one of the cheapest
lines. -/
theorem eq_of_mem_wrapParagraph {paragraph line : Text} (h : line ∈ wrapParagraph room paragraph) :
    Utf8.byteLength paragraph < room ∧ line = (Fragment.ofText paragraph).text ∨ line = [] ∨
      ∃ fs ∈ cheapest room (fragments room paragraph), line = lineText fs := by
  unfold wrapParagraph at h
  split at h
  · exact .inl ⟨‹_›, List.mem_singleton.mp h⟩
  · split at h
    · exact .inr (.inl (List.mem_singleton.mp h))
    · obtain ⟨fs, hmem, rfl⟩ := List.mem_map.mp h
      exact .inr (.inr ⟨fs, hmem, rfl⟩)

/-- The fragments of a line have no character that the paragraph lacks. -/
theorem flatMap_full_subset {paragraph : Text} {fs : List Fragment}
    (h : fs ∈ cheapest room (fragments room paragraph)) : fs.flatMap Fragment.full ⊆ paragraph := by
  have hcut := (isCheapest_cheapest room (fragments room paragraph)).toIsCut
  intro c hc
  obtain ⟨f, hf, hc⟩ := List.mem_flatMap.mp hc
  rw [← flatMap_full_fragments room paragraph]
  exact List.mem_flatMap.mpr ⟨f, hcut.mem_of_mem h hf, hc⟩

/-- A line has no character that its paragraph lacks. -/
theorem subset_of_mem_wrapParagraph {paragraph line : Text}
    (h : line ∈ wrapParagraph room paragraph) : line ⊆ paragraph := by
  rcases eq_of_mem_wrapParagraph h with ⟨-, rfl⟩ | rfl | ⟨fs, hfs, rfl⟩
  · conv => rhs; rw [← Fragment.full_ofText paragraph]
    exact List.subset_append_left _ _
  · exact List.nil_subset _
  · exact List.Subset.trans (lineText_subset fs) (flatMap_full_subset hfs)

/-- **In a narrow room the lines of a paragraph fit**, unless it has escape sequences. -/
theorem columns_le_of_mem_wrapParagraph {paragraph line : Text} (hroom : 5 ≤ room)
    (hnarrow : room ≤ 27) (hescape : '\x1b' ∉ paragraph)
    (h : line ∈ wrapParagraph room paragraph) : columns line ≤ room := by
  rcases eq_of_mem_wrapParagraph h with ⟨hshort, rfl⟩ | rfl | ⟨fs, hfs, rfl⟩
  · calc columns (Fragment.ofText paragraph).text
      _ ≤ columns (Fragment.ofText paragraph).full := columns_prefix_le (List.prefix_append _ _)
      _ ≤ Utf8.byteLength paragraph := by
        rw [Fragment.full_ofText]
        exact Text.columnsFrom_le_byteLength _ _
      _ ≤ room := hshort.le
  · exact Nat.zero_le room
  · have hclosed : ∀ f ∈ fs, IsClosed f.text := fun f hf =>
      Text.isClosed_of_not_mem fun hmem => hescape <|
        flatMap_full_subset hfs (List.mem_flatMap.mpr ⟨f, hf, List.mem_append_left _ hmem⟩)
    have hfits : ∀ f ∈ fragments room paragraph, f.columns ≤ room := fun f =>
      columns_le_of_mem_fragments (Nat.le_trans (by decide) hroom)
    rw [columns_lineText hclosed]
    exact (isCheapest_cheapest room _).lineColumns_le hroom hnarrow hfits fs hfs

/-- A paragraph of a text is a part of it without newlines. -/
theorem subset_of_mem_splitOn {text piece : Text} (h : piece ∈ text.splitOn '\n') :
    '\n' ∉ piece ∧ piece ⊆ text := by
  induction text using Text.cut_induction '\n' with
  | last rest hrest =>
    rw [List.splitOn_eq_singleton hrest, List.mem_singleton] at h
    subst h
    exact ⟨hrest, List.Subset.refl _⟩
  | next front rest hfront ih =>
    rw [List.splitOn_append_cons_self_of_not_mem hfront] at h
    rcases List.mem_cons.mp h with rfl | h
    · exact ⟨hfront, List.subset_append_left _ _⟩
    · refine ⟨(ih h).1, List.Subset.trans (ih h).2 ?_⟩
      exact List.Subset.trans (List.subset_cons_self _ _) (List.subset_append_right _ _)

theorem subset_of_mem_wrap {text line : Text} (h : line ∈ wrap room text) :
    '\n' ∉ line ∧ line ⊆ text := by
  obtain ⟨paragraph, hmem, hline⟩ := List.mem_flatMap.mp h
  obtain ⟨hnewline, hsubset⟩ := subset_of_mem_splitOn hmem
  have hline := subset_of_mem_wrapParagraph hline
  exact ⟨fun hmem => hnewline (hline hmem), List.Subset.trans hline hsubset⟩

/-- **In a narrow room a wrapped text fits**, unless it has escape sequences. -/
theorem columns_le_of_mem_lines_wrap {text line : Text} (hroom : 5 ≤ room) (hnarrow : room ≤ 27)
    (hescape : '\x1b' ∉ text) (h : line ∈ Text.lines (Text.join ['\n'] (wrap room text))) :
    columns line ≤ room := by
  obtain ⟨l, hl, hprefix⟩ :=
    Text.exists_prefix_of_mem_lines_join (fun l hl => (subset_of_mem_wrap hl).1) h
  obtain ⟨paragraph, hmem, hl⟩ := List.mem_flatMap.mp hl
  have hescape : '\x1b' ∉ paragraph := fun hc => hescape ((subset_of_mem_splitOn hmem).2 hc)
  exact (columns_prefix_le hprefix).trans
    (columns_le_of_mem_wrapParagraph hroom hnarrow hescape hl)

end Wrap

end BuildSummary
