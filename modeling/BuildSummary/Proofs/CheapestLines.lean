import Mathlib.Algebra.Ring.Nat
import Mathlib.Data.List.Basic
import Mathlib.Data.List.TakeDrop
import Mathlib.Data.List.TakeWhile
import BuildSummary.Text.Wrap

/-!
# The cheapest lines

Fragments are put on lines by a search that reads them one by one and keeps, for each place where
the last line may have begun, one way to lay out what was read, as far as it may yet be cheapest.
What it finds is a cheapest of all ways to cut the fragments into lines. Two facts carry the proof:
what is cheaper now is cheaper for every continuation if the last lines are alike, and a last line
that is too wide makes all continuations dearer by the same amount, so that of such layouts one is
enough.

## Main definitions

* `Wrap.IsCut`: some fragments cut into lines
* `Wrap.linesCost`: what lines cost
* `Wrap.IsCheapest`: no way to cut the fragments into lines costs less
* `Wrap.Layout.Dominates`: a layout stays as cheap as another one, whatever follows
* `Wrap.IsFrontier`: the layouts that are kept stand for all others

## Main results

* `Wrap.Layout.exists_dominates_prune`: pruning drops no layout that is needed
* `Wrap.IsFrontier.step`: one more fragment
* `Wrap.isCheapest_cheapest`: the lines that are found are cheapest
-/

namespace BuildSummary.Wrap

/-! ## Cuts and their costs -/

/-- The columns of a line: its fragments and the spaces between them. -/
def lineColumns : List Fragment → Nat
  | [] => 0
  | [f] => f.columns
  | f :: next :: rest => f.columns + f.spaces + lineColumns (next :: rest)

/-- How many spaces stand at the end of a line. -/
def endSpaces (line : List Fragment) : Nat :=
  (line.getLast?.map (·.spaces)).getD 0

/-- What lines cost. -/
def linesCost (room : Nat) : List (List Fragment) → Nat
  | [] => 0
  | line :: rest =>
    lineCost room (lineColumns line) rest.isEmpty (line.length = 1) + linesCost room rest

/-- The lines are the fragments, cut into pieces that are not empty. -/
structure IsCut (fragments : List Fragment) (lines : List (List Fragment)) : Prop where
  flatten_eq : lines.flatten = fragments
  not_nil_mem : [] ∉ lines

/-- No way to cut the fragments into lines costs less. -/
structure IsCheapest (room : Nat) (fragments : List Fragment) (lines : List (List Fragment)) :
    Prop extends IsCut fragments lines where
  cost_le : ∀ other, IsCut fragments other → linesCost room lines ≤ linesCost room other

theorem IsCut.mem_of_mem {fragments line : List Fragment} {lines : List (List Fragment)}
    {f : Fragment} (h : IsCut fragments lines) (hline : line ∈ lines) (hf : f ∈ line) :
    f ∈ fragments := by
  rw [← h.flatten_eq]
  exact List.mem_flatten.mpr ⟨line, hline, hf⟩

theorem lineColumns_concat (line : List Fragment) (f : Fragment) :
    lineColumns (line ++ [f]) = lineColumns line + endSpaces line + f.columns := by
  induction line with
  | nil => simp [lineColumns, endSpaces]
  | cons first rest ih =>
    cases rest with
    | nil => simp [lineColumns, endSpaces]
    | cons next rest =>
      have hspaces : endSpaces (first :: next :: rest) = endSpaces (next :: rest) := by
        unfold endSpaces
        rw [List.getLast?_cons_cons]
      rw [hspaces, List.cons_append, List.cons_append, lineColumns, ← List.cons_append, ih,
        lineColumns]
      omega

/-- A line that is not the last costs the same whether or not it is a fragment alone. -/
theorem lineCost_false (room used : Nat) (isSingle : Bool) :
    lineCost room used false isSingle = lineCost room used false false := by
  simp [lineCost]

/-- The cost of a line that is too wide. -/
theorem lineCost_of_lt {room used : Nat} (h : Nat.max room 1 < used) (isLast isSingle : Bool) :
    lineCost room used isLast isSingle = lineBase + (used - Nat.max room 1) * overflowCost :=
  congrArg (lineBase + ·) (if_pos h)

/-- What lines cost of which none is the last. -/
def finishedCost (room : Nat) (lines : List (List Fragment)) : Nat :=
  (lines.map fun line => lineCost room (lineColumns line) false false).sum

theorem finishedCost_cons (room : Nat) (line : List Fragment) (rest : List (List Fragment)) :
    finishedCost room (line :: rest) =
      lineCost room (lineColumns line) false false + finishedCost room rest :=
  rfl

/-- The last of some lines is paid for apart. -/
theorem linesCost_append {room : Nat} (front : List (List Fragment)) {back : List (List Fragment)}
    (h : back ≠ []) :
    linesCost room (front ++ back) = finishedCost room front + linesCost room back := by
  induction front with
  | nil => simp [finishedCost]
  | cons line rest ih =>
    have hmore : (rest ++ back).isEmpty = false := by simp [h]
    rw [List.cons_append, linesCost, hmore, lineCost_false, ih, finishedCost_cons, Nat.add_assoc]

theorem linesCost_concat (room : Nat) (finished : List (List Fragment)) (line : List Fragment) :
    linesCost room (finished ++ [line]) =
      finishedCost room finished + lineCost room (lineColumns line) true (line.length = 1) := by
  rw [linesCost_append finished (List.cons_ne_nil _ _), linesCost, linesCost, Nat.add_zero]
  rfl

namespace Layout

/-! ## Layouts and what they stand for -/

/-- The layout with the given finished lines and the given last one. -/
def ofLines (room : Nat) (finished : List (List Fragment)) (line : List Fragment) : Layout where
  cost := finishedCost room finished
  finished := finished.reverse
  line := line.reverse
  used := lineColumns line
  spaces := endSpaces line

theorem push_ofLines (room : Nat) (finished : List (List Fragment)) (line : List Fragment)
    (f : Fragment) :
    (ofLines room finished line).push f f.columns = ofLines room finished (line ++ [f]) := by
  simp [push, ofLines, lineColumns_concat, endSpaces]

theorem isSingle_ofLines (room : Nat) (finished : List (List Fragment)) (line : List Fragment) :
    (ofLines room finished line).isSingle = decide (line.length = 1) := by
  rw [← List.length_reverse]
  unfold isSingle ofLines
  rcases line.reverse with _ | ⟨f, _ | ⟨next, rest⟩⟩ <;> simp

theorem total_ofLines_false (room : Nat) (finished : List (List Fragment)) (line : List Fragment) :
    (ofLines room finished line).total room false = finishedCost room (finished ++ [line]) := by
  unfold total
  rw [lineCost_false, finishedCost, List.map_append, List.sum_append, List.map_singleton,
    List.sum_singleton]
  rfl

theorem total_ofLines_true (room : Nat) (finished : List (List Fragment)) (line : List Fragment) :
    (ofLines room finished line).total room true = linesCost room (finished ++ [line]) := by
  rw [linesCost_concat, total, isSingle_ofLines]
  rfl

theorem finish_ofLines (room : Nat) (finished : List (List Fragment)) (line : List Fragment) :
    (ofLines room finished line).finish room false = ofLines room (finished ++ [line]) [] := by
  unfold finish
  rw [total_ofLines_false]
  simp [ofLines, lineColumns, endSpaces]

/-! ## Dominance -/

/-- The layout after some more fragments on its last line. -/
def pushAll (fragments : List Fragment) (layout : Layout) : Layout :=
  fragments.foldl (fun layout f => layout.push f f.columns) layout

/-- The columns that some fragments add to a line that ends in spaces. -/
def addedColumns : Nat → List Fragment → Nat
  | _, [] => 0
  | spaces, f :: rest => spaces + f.columns + addedColumns f.spaces rest

theorem used_pushAll (fragments : List Fragment) (layout : Layout) :
    (layout.pushAll fragments).used = layout.used + addedColumns layout.spaces fragments := by
  induction fragments generalizing layout with
  | nil => rfl
  | cons f rest ih =>
    rw [pushAll, List.foldl_cons, ← pushAll, ih, addedColumns]
    show layout.used + layout.spaces + f.columns + addedColumns f.spaces rest = _
    omega

theorem cost_pushAll (fragments : List Fragment) (layout : Layout) :
    (layout.pushAll fragments).cost = layout.cost := by
  induction fragments generalizing layout with
  | nil => rfl
  | cons f rest ih =>
    rw [pushAll, List.foldl_cons, ← pushAll, ih]
    rfl

theorem line_pushAll (fragments : List Fragment) (layout : Layout) :
    (layout.pushAll fragments).line = fragments.reverse ++ layout.line := by
  induction fragments generalizing layout with
  | nil => rfl
  | cons f rest ih =>
    rw [pushAll, List.foldl_cons, ← pushAll, ih, List.reverse_cons, List.append_assoc]
    rfl

/-- Whatever fragments follow on the last line, and whether or not it is the last of all, the layout
costs no more than the other one. -/
def Dominates (room : Nat) (layout other : Layout) : Prop :=
  ∀ fragments isLast,
    (layout.pushAll fragments).total room isLast ≤ (other.pushAll fragments).total room isLast

variable {room : Nat} {layout other : Layout}

theorem Dominates.refl (room : Nat) (layout : Layout) : layout.Dominates room layout :=
  fun _ _ => Nat.le_refl _

theorem Dominates.trans {third : Layout} (h : layout.Dominates room other)
    (h' : other.Dominates room third) : layout.Dominates room third :=
  fun fragments isLast => (h fragments isLast).trans (h' fragments isLast)

theorem Dominates.total_le (h : layout.Dominates room other) (isLast : Bool) :
    layout.total room isLast ≤ other.total room isLast :=
  h [] isLast

theorem Dominates.push (h : layout.Dominates room other) (f : Fragment) :
    (layout.push f f.columns).Dominates room (other.push f f.columns) :=
  fun fragments isLast => h (f :: fragments) isLast

/-- Layouts with new last lines differ in what is finished only. -/
theorem dominates_finish (h : layout.total room false ≤ other.total room false) :
    (layout.finish room false).Dominates room (other.finish room false) := by
  intro fragments isLast
  have hsingle : ((layout.finish room false).pushAll fragments).isSingle =
      ((other.finish room false).pushAll fragments).isSingle := by
    unfold isSingle
    rw [line_pushAll, line_pushAll]
    rfl
  unfold total
  rw [cost_pushAll, cost_pushAll, used_pushAll, used_pushAll, hsingle]
  exact Nat.add_le_add_right h _

/-- **A last line that is too wide** makes every continuation dearer by the same amount. -/
theorem dominates_of_overflow (hlayout : Nat.max room 1 < layout.used)
    (hother : Nat.max room 1 < other.used) (hspaces : layout.spaces = other.spaces)
    (h : layout.total room false ≤ other.total room false) : layout.Dominates room other := by
  intro fragments isLast
  unfold total at h ⊢
  rw [lineCost_of_lt hlayout, lineCost_of_lt hother] at h
  rw [cost_pushAll, cost_pushAll, used_pushAll, used_pushAll, hspaces,
    lineCost_of_lt (by omega), lineCost_of_lt (by omega)]
  rw [Nat.sub_add_comm hlayout.le, Nat.sub_add_comm hother.le, Nat.add_mul, Nat.add_mul]
  omega

/-! ## Pruning -/

/-- The layout that is taken is one of the given ones, and none of them costs less. -/
theorem least_spec (room : Nat) (isLast : Bool) (first : Layout) (others : List Layout) :
    least room isLast first others ∈ first :: others ∧
      ∀ layout ∈ first :: others,
        (least room isLast first others).total room isLast ≤ layout.total room isLast := by
  induction others generalizing first with
  | nil => simp [least]
  | cons next rest ih =>
    unfold least at ih ⊢
    rw [List.foldl_cons]
    split
    · rename_i hlt
      obtain ⟨hmem, hle⟩ := ih next
      refine ⟨List.mem_cons_of_mem _ hmem, List.forall_mem_cons.mpr ⟨?_, hle⟩⟩
      exact (hle next List.mem_cons_self).trans hlt.le
    · rename_i hge
      obtain ⟨hmem, hle⟩ := ih first
      rw [List.forall_mem_cons] at hle ⊢
      refine ⟨?_, hle.1, List.forall_mem_cons.mpr ⟨?_, hle.2⟩⟩
      · exact List.cons_subset_cons _ (List.subset_cons_self _ _) hmem
      · exact hle.1.trans (Nat.not_lt.mp hge)

/-- What pruning keeps: of the first layouts, which are too wide, one that is cheapest, and all
others. -/
theorem prune_eq (room : Nat) (layouts : List Layout) :
    ∃ wide fitting, layouts = wide ++ fitting ∧ (∀ layout ∈ wide, Nat.max room 1 < layout.used) ∧
      (wide = [] ∧ prune room layouts = fitting ∨
        ∃ best ∈ wide, prune room layouts = best :: fitting ∧
          ∀ layout ∈ wide, best.total room false ≤ layout.total room false) := by
  refine ⟨layouts.takeWhile fun layout => Nat.max room 1 < layout.used, _,
    List.takeWhile_append_dropWhile.symm,
    fun layout hmem => by simpa using List.mem_takeWhile_imp hmem, ?_⟩
  unfold prune
  rw [List.span_eq_takeWhile_dropWhile]
  cases layouts.takeWhile fun layout => decide (Nat.max room 1 < layout.used) with
  | nil => exact .inl ⟨rfl, rfl⟩
  | cons first others =>
    obtain ⟨hmem, hle⟩ := least_spec room false first others
    exact .inr ⟨_, hmem, rfl, hle⟩

theorem prune_subset (room : Nat) (layouts : List Layout) : prune room layouts ⊆ layouts := by
  obtain ⟨wide, fitting, rfl, -, ⟨rfl, hprune⟩ | ⟨best, hbest, hprune, -⟩⟩ := prune_eq room layouts
  · rw [hprune]
    exact List.Subset.refl _
  · rw [hprune]
    exact List.cons_subset.mpr
      ⟨List.mem_append_left _ hbest, List.subset_append_right _ _⟩

/-- **Pruning drops no layout that is needed**: for each one that is dropped, a kept one is as
cheap, whatever follows. -/
theorem exists_dominates_prune (room : Nat) {layouts : List Layout} {spaces : Nat}
    (hspaces : ∀ layout ∈ layouts, layout.spaces = spaces) (h : layout ∈ layouts) :
    ∃ kept ∈ prune room layouts, kept.Dominates room layout := by
  obtain ⟨wide, fitting, rfl, hwide, ⟨rfl, hprune⟩ | ⟨best, hbest, hprune, hle⟩⟩ :=
    prune_eq room layouts
  · exact ⟨layout, by rwa [hprune], .refl room layout⟩
  · rw [hprune]
    rcases List.mem_append.mp h with hmem | hmem
    · have hsame : best.spaces = layout.spaces :=
        (hspaces best (List.mem_append_left _ hbest)).trans (hspaces layout h).symm
      exact ⟨best, List.mem_cons_self,
        dominates_of_overflow (hwide best hbest) (hwide layout hmem) hsame (hle layout hmem)⟩
    · exact ⟨layout, List.mem_cons_of_mem _ hmem, .refl room layout⟩

end Layout

/-! ## The layouts that are kept -/

open Layout (ofLines)

/-- What was read stands on the finished lines and on one that may still grow. -/
structure IsSplit (read : List Fragment) (finished : List (List Fragment)) (line : List Fragment) :
    Prop where
  flatten_append_eq : finished.flatten ++ line = read
  not_nil_mem : [] ∉ finished

theorem IsSplit.concat {read line : List Fragment} {finished : List (List Fragment)}
    (h : IsSplit read finished line) (f : Fragment) :
    IsSplit (read ++ [f]) finished (line ++ [f]) where
  flatten_append_eq := by rw [← List.append_assoc, h.flatten_append_eq]
  not_nil_mem := h.not_nil_mem

/-- The line that the next fragment stands on can be finished. -/
theorem IsSplit.isCut {read line : List Fragment} {finished : List (List Fragment)}
    (h : IsSplit read finished line) (f : Fragment) :
    IsCut (read ++ [f]) (finished ++ [line ++ [f]]) where
  flatten_eq := by rw [List.flatten_concat, (h.concat f).flatten_append_eq]
  not_nil_mem := by simp [h.not_nil_mem]

/-- The last fragment was put on a last line. -/
theorem IsSplit.exists_concat {read line : List Fragment} {finished : List (List Fragment)}
    {f : Fragment} (h : IsSplit (read ++ [f]) finished line) (hline : line ≠ []) :
    ∃ front, line = front ++ [f] ∧ IsSplit read finished front := by
  obtain ⟨front, last, rfl⟩ := (List.eq_nil_or_concat' line).resolve_left hline
  have hflatten := h.flatten_append_eq
  rw [← List.append_assoc] at hflatten
  obtain ⟨hfront, hlast⟩ := List.append_inj' hflatten rfl
  rw [List.singleton_inj] at hlast
  exact ⟨front, by rw [hlast], hfront, h.not_nil_mem⟩

theorem IsCut.exists_concat {read : List Fragment} {lines : List (List Fragment)} {f : Fragment}
    (h : IsCut (read ++ [f]) lines) :
    ∃ finished front, lines = finished ++ [front ++ [f]] ∧ IsSplit read finished front := by
  have hlines : lines ≠ [] := by
    rintro rfl
    simpa using h.flatten_eq
  obtain ⟨finished, line, rfl⟩ := (List.eq_nil_or_concat' lines).resolve_left hlines
  have hmem := h.not_nil_mem
  rw [List.mem_append, List.mem_singleton, not_or] at hmem
  have hsplit : IsSplit (read ++ [f]) finished line := ⟨by simpa using h.flatten_eq, hmem.1⟩
  obtain ⟨front, rfl, hfront⟩ := hsplit.exists_concat (Ne.symm hmem.2)
  exact ⟨finished, front, rfl, hfront⟩

/-- The kept layouts stand for all ways to lay out what was read: each is one of them, and for each
of them a kept one is as cheap, whatever follows. -/
structure IsFrontier (room : Nat) (read : List Fragment) (layouts : List Layout) : Prop where
  sound : ∀ layout ∈ layouts, ∃ finished line,
    IsSplit read finished line ∧ layout = ofLines room finished line
  complete : ∀ finished line, IsSplit read finished line →
    ∃ kept ∈ layouts, kept.Dominates room (ofLines room finished line)

namespace IsFrontier

variable {room : Nat} {read : List Fragment} {layouts : List Layout}

theorem empty (room : Nat) : IsFrontier room [] [.empty] where
  sound := by
    intro layout hmem
    exact ⟨[], [], ⟨rfl, List.not_mem_nil⟩, List.mem_singleton.mp hmem⟩
  complete := by
    intro finished line hsplit
    obtain ⟨hflatten, rfl⟩ := List.append_eq_nil_iff.mp hsplit.flatten_append_eq
    have hfinished : finished = [] := by
      refine List.eq_nil_iff_forall_not_mem.mpr fun line hmem => hsplit.not_nil_mem ?_
      rwa [← List.flatten_eq_nil_iff.mp hflatten line hmem]
    subst hfinished
    exact ⟨.empty, List.mem_singleton_self _, .refl room _⟩

/-- Every kept layout after one more fragment on its last line is again one of what was read, and
it stands for all layouts whose last line holds the new fragment. -/
theorem push (h : IsFrontier room read layouts) (f : Fragment) :
    (∀ layout ∈ layouts.map (Layout.push f f.columns), ∃ finished line,
      IsSplit read finished line ∧ layout = ofLines room finished (line ++ [f])) ∧
    ∀ finished line, IsSplit read finished line →
      ∃ kept ∈ layouts.map (Layout.push f f.columns),
        kept.Dominates room (ofLines room finished (line ++ [f])) := by
  constructor
  · intro layout hmem
    obtain ⟨before, hbefore, rfl⟩ := List.mem_map.mp hmem
    obtain ⟨finished, line, hsplit, rfl⟩ := h.sound before hbefore
    exact ⟨finished, line, hsplit, Layout.push_ofLines room finished line f⟩
  · intro finished line hsplit
    obtain ⟨kept, hkept, hdominates⟩ := h.complete finished line hsplit
    refine ⟨_, List.mem_map_of_mem hkept, ?_⟩
    rw [← Layout.push_ofLines]
    exact hdominates.push f

/-- **One more fragment.** -/
theorem step {grown : List Layout} {f : Fragment} {best : Layout}
    (h : IsFrontier room read layouts) (hgrown : grown = layouts.map (Layout.push f f.columns))
    (hbest : best ∈ grown)
    (hle : ∀ layout ∈ grown, best.total room false ≤ layout.total room false) :
    IsFrontier room (read ++ [f]) (Layout.prune room grown ++ [best.finish room false]) := by
  subst hgrown
  obtain ⟨hsound, hcomplete⟩ := h.push f
  refine ⟨fun layout hmem => ?_, fun finished line hsplit => ?_⟩
  · rcases List.mem_append.mp hmem with hmem | hmem
    · obtain ⟨finished, line, hsplit, rfl⟩ := hsound layout (Layout.prune_subset room _ hmem)
      exact ⟨finished, line ++ [f], hsplit.concat f, rfl⟩
    · obtain ⟨finished, line, hsplit, rfl⟩ := hsound best hbest
      have hcut := hsplit.isCut f
      refine ⟨finished ++ [line ++ [f]], [], ⟨?_, hcut.not_nil_mem⟩, ?_⟩
      · rw [List.append_nil, hcut.flatten_eq]
      · rw [List.mem_singleton.mp hmem, Layout.finish_ofLines]
  · by_cases hline : line = []
    -- the last line has just been begun
    · subst hline
      have hcut : IsCut (read ++ [f]) finished :=
        ⟨by simpa using hsplit.flatten_append_eq, hsplit.not_nil_mem⟩
      obtain ⟨finished, front, rfl, hfront⟩ := hcut.exists_concat
      obtain ⟨kept, hkept, hdominates⟩ := hcomplete finished front hfront
      refine ⟨_, List.mem_concat_self, ?_⟩
      rw [← Layout.finish_ofLines]
      exact Layout.dominates_finish ((hle kept hkept).trans (hdominates.total_le false))
    · obtain ⟨front, rfl, hfront⟩ := hsplit.exists_concat hline
      obtain ⟨kept, hkept, hdominates⟩ := hcomplete finished front hfront
      have hspaces : ∀ layout ∈ layouts.map (Layout.push f f.columns),
          layout.spaces = f.spaces := by
        intro layout hmem
        obtain ⟨before, -, rfl⟩ := List.mem_map.mp hmem
        rfl
      obtain ⟨needed, hneeded, hdominates'⟩ := Layout.exists_dominates_prune room hspaces hkept
      exact ⟨needed, List.mem_append_left _ hneeded, hdominates'.trans hdominates⟩

/-- The last fragment: the cheapest of the layouts is the cheapest way to cut into lines. -/
theorem isCheapest_finish {grown : List Layout} {f : Fragment} {best : Layout}
    (h : IsFrontier room read layouts) (hgrown : grown = layouts.map (Layout.push f f.columns))
    (hbest : best ∈ grown) (hle : ∀ layout ∈ grown, best.total room true ≤ layout.total room true) :
    IsCheapest room (read ++ [f]) (best.finish room true).finished.reverse := by
  subst hgrown
  obtain ⟨hsound, hcomplete⟩ := h.push f
  obtain ⟨finished, line, hsplit, rfl⟩ := hsound best hbest
  have hlines : ((ofLines room finished (line ++ [f])).finish room true).finished.reverse =
      finished ++ [line ++ [f]] := by
    simp [Layout.finish, ofLines]
  rw [hlines]
  refine ⟨hsplit.isCut f, fun other hother => ?_⟩
  obtain ⟨finished', front, rfl, hsplit'⟩ := hother.exists_concat
  obtain ⟨kept, hkept, hdominates⟩ := hcomplete finished' front hsplit'
  rw [← Layout.total_ofLines_true, ← Layout.total_ofLines_true]
  exact (hle kept hkept).trans (hdominates.total_le true)

end IsFrontier

/-- **The search** goes on from the layouts that stand for what was read. -/
theorem isCheapest_cheapestFrom {room : Nat} {read rest : List Fragment} {layouts : List Layout}
    {newest : Layout} (h : IsFrontier room read (layouts ++ [newest])) (hrest : rest ≠ []) :
    IsCheapest room (read ++ rest) (cheapestFrom room layouts newest rest) := by
  induction rest generalizing read layouts newest with
  | nil => exact absurd rfl hrest
  | cons f rest ih =>
    have hgrown : (layouts ++ [newest]).map (Layout.push f f.columns) ≠ [] := by simp
    obtain ⟨first, others, hcons⟩ := List.exists_cons_of_ne_nil hgrown
    obtain ⟨hmem, hle⟩ := Layout.least_spec room rest.isEmpty first others
    rw [cheapestFrom]
    simp only [hcons, List.headD_cons, List.tail_cons]
    cases rest with
    | nil => exact h.isCheapest_finish hcons.symm hmem hle
    | cons next rest =>
      have hsplit : read ++ f :: next :: rest = read ++ [f] ++ next :: rest := by simp
      rw [hsplit]
      exact ih (h.step hcons.symm hmem hle) (List.cons_ne_nil _ _)

/-- **The lines that are found are cheapest.** -/
theorem isCheapest_cheapest (room : Nat) (fragments : List Fragment) :
    IsCheapest room fragments (cheapest room fragments) := by
  by_cases hfragments : fragments = []
  · subst hfragments
    exact ⟨⟨rfl, List.not_mem_nil⟩, fun _ _ => Nat.zero_le _⟩
  · have hempty : IsFrontier room [] ([] ++ [.empty]) := .empty room
    exact isCheapest_cheapestFrom hempty hfragments

end BuildSummary.Wrap
