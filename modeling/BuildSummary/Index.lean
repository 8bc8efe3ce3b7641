import BuildSummary.Text.Basic

/-!
# Indexes

An index holds a value for each of some texts, in code point order. Reports list files and messages
in this order, whatever the order in which they were found.

## Main definitions

* `Index.get?`, `Index.keys`: the value at a key, and the keys
* `Index.alter`, `Index.insert`: one value changed
* `Index.tally`: how often each key is given
* `Index.ofKeys`: an index that holds only keys
* `Index.sum`: the sum of counts

## Main results

* `Index.get?_alter`: altering changes the value at its key and no other
* `Index.get?_tally`, `Index.sum_tally`: a tally counts the keys
* `Index.mem_keys_iff`, `Index.sum_eq_zero_iff`: what the keys and the sum say of the values
* `Index.ext_get?`: an index is determined by its values
-/

namespace BuildSummary

/-- Values by key, the keys strictly ascending in code point order. -/
@[ext] structure Index (V : Type) where
  /-- The keys with their values. -/
  entries : List (Text × V)
  /-- The keys ascend. -/
  ascending : entries.Pairwise fun a b => a.1.before b.1 = true
  deriving DecidableEq

namespace Index

variable {V : Type}

instance : EmptyCollection (Index V) where
  emptyCollection := ⟨[], .nil⟩

instance : Inhabited (Index V) where
  default := ∅

/-- The keys, strictly ascending. -/
def keys (index : Index V) : List Text :=
  index.entries.map (·.1)

/-- The value at a key. -/
def get? (index : Index V) (key : Text) : Option V :=
  index.entries.lookup key

/-- Whether the index has a value at the key. -/
def contains (index : Index V) (key : Text) : Bool :=
  (index.get? key).isSome

/-! ## Changing one value -/

/-- The entries with the value at `key` replaced by what `f` makes of it. -/
def alterEntries (key : Text) (f : Option V → V) : List (Text × V) → List (Text × V)
  | [] => [(key, f none)]
  | (k, v) :: rest =>
    if key = k then (k, f (some v)) :: rest
    else if key.before k then (key, f none) :: (k, v) :: rest
    else (k, v) :: alterEntries key f rest

theorem key_mem_alterEntries {key k : Text} {f : Option V → V} {entries : List (Text × V)} {v : V}
    (h : (k, v) ∈ alterEntries key f entries) : k = key ∨ ∃ w, (k, w) ∈ entries := by
  induction entries with
  | nil => simp_all [alterEntries]
  | cons entry rest ih =>
    obtain ⟨k', v'⟩ := entry
    unfold alterEntries at h
    split at h
    · rename_i hk
      rcases List.mem_cons.mp h with h | h
      · exact .inl (by rw [hk]; exact congrArg Prod.fst h)
      · exact .inr ⟨v, List.mem_cons_of_mem _ h⟩
    · split at h
      · rcases List.mem_cons.mp h with h | h
        · exact .inl (congrArg Prod.fst h)
        · exact .inr ⟨v, h⟩
      · rcases List.mem_cons.mp h with h | h
        · exact .inr ⟨v, by rw [h]; exact List.mem_cons_self⟩
        · exact (ih h).imp id fun ⟨w, hw⟩ => ⟨w, List.mem_cons_of_mem _ hw⟩

theorem ascending_alterEntries (key : Text) (f : Option V → V) {entries : List (Text × V)}
    (h : entries.Pairwise fun a b => a.1.before b.1 = true) :
    (alterEntries key f entries).Pairwise fun a b => a.1.before b.1 = true := by
  induction entries with
  | nil => simp [alterEntries]
  | cons entry rest ih =>
    obtain ⟨k, v⟩ := entry
    rw [List.pairwise_cons] at h
    unfold alterEntries
    -- the key is found, or it stands before the first entry, or it goes into the rest
    split
    · exact List.pairwise_cons.mpr ⟨fun e he => h.1 e he, h.2⟩
    · rename_i hne
      split
      · rename_i hlt
        refine List.pairwise_cons.mpr ⟨fun e he => ?_, List.pairwise_cons.mpr h⟩
        rcases List.mem_cons.mp he with rfl | he
        · exact hlt
        · exact Text.before_trans hlt (h.1 e he)
      · rename_i hnlt
        refine List.pairwise_cons.mpr ⟨fun e he => ?_, ih h.2⟩
        rcases key_mem_alterEntries he with hk | ⟨w, hw⟩
        · exact hk ▸ (Text.before_connex hne).resolve_left hnlt
        · exact h.1 (e.1, w) hw

/-- The index with the value at `key` replaced by what `f` makes of it. -/
def alter (index : Index V) (key : Text) (f : Option V → V) : Index V :=
  ⟨alterEntries key f index.entries, ascending_alterEntries key f index.ascending⟩

/-- The index with `value` at `key`. -/
def insert (index : Index V) (key : Text) (value : V) : Index V :=
  index.alter key fun _ => value

/-- The index with the count at `key` one higher. -/
def increment (index : Index Nat) (key : Text) : Index Nat :=
  index.alter key fun count => count.getD 0 + 1

/-- How often each of the keys is given. -/
def tally (keys : List Text) : Index Nat :=
  keys.foldl increment ∅

/-- An index that holds the given keys. -/
def ofKeys (keys : List Text) : Index Unit :=
  keys.foldl (fun index key => index.insert key ()) ∅

/-- The sum of the counts in an index. -/
def sum (index : Index Nat) : Nat :=
  index.entries.foldr (fun entry sum => entry.2 + sum) 0

/-! ## What an index holds -/

@[simp] theorem get?_empty (key : Text) : (∅ : Index V).get? key = none := rfl

theorem lookup_cons_eq (key k : Text) (v : V) (rest : List (Text × V)) :
    ((k, v) :: rest).lookup key = if key = k then some v else rest.lookup key := by
  rw [List.lookup_cons]
  by_cases h : key = k
  · simp [h]
  · rw [if_neg h, beq_eq_false_iff_ne.mpr h]

theorem lookup_eq_none_of_before {key : Text} {entries : List (Text × V)}
    (h : ∀ e ∈ entries, key.before e.1 = true) : entries.lookup key = none := by
  induction entries with
  | nil => rfl
  | cons entry rest ih =>
    have hne : key ≠ entry.1 := by
      rintro rfl
      simpa [Text.before_irrefl] using h entry List.mem_cons_self
    rw [lookup_cons_eq, if_neg hne]
    exact ih fun e he => h e (List.mem_cons_of_mem _ he)

theorem lookup_alterEntries (key k : Text) (f : Option V → V) {entries : List (Text × V)}
    (h : entries.Pairwise fun a b => a.1.before b.1 = true) :
    (alterEntries key f entries).lookup k =
      if k = key then some (f (entries.lookup key)) else entries.lookup k := by
  induction entries with
  | nil => simp [alterEntries, lookup_cons_eq]
  | cons entry rest ih =>
    obtain ⟨k', v⟩ := entry
    rw [List.pairwise_cons] at h
    unfold alterEntries
    split
    · rename_i hkey
      subst hkey
      by_cases hk : k = key <;> simp [hk, lookup_cons_eq]
    · rename_i hne
      split
      · rename_i hlt
        have hnone : ((k', v) :: rest).lookup key = none :=
          lookup_eq_none_of_before fun e he => by
            rcases List.mem_cons.mp he with rfl | he
            · exact hlt
            · exact Text.before_trans hlt (h.1 e he)
        rw [lookup_cons_eq, hnone]
      · rw [lookup_cons_eq, ih h.2, lookup_cons_eq, lookup_cons_eq, if_neg hne]
        by_cases hk : k = k'
        · subst hk; simp [Ne.symm hne]
        · simp [hk]

/-- Altering changes the value at its key and no other. -/
theorem get?_alter (index : Index V) (key k : Text) (f : Option V → V) :
    (index.alter key f).get? k = if k = key then some (f (index.get? key)) else index.get? k :=
  lookup_alterEntries key k f index.ascending

theorem get?_insert (index : Index V) (key k : Text) (value : V) :
    (index.insert key value).get? k = if k = key then some value else index.get? k :=
  get?_alter index key k _

theorem mem_entries_iff {index : Index V} {key : Text} {value : V} :
    (key, value) ∈ index.entries ↔ index.get? key = some value := by
  obtain ⟨entries, h⟩ := index
  simp only [get?]
  induction entries with
  | nil => simp
  | cons entry rest ih =>
    obtain ⟨k, v⟩ := entry
    rw [List.pairwise_cons] at h
    rw [List.mem_cons, lookup_cons_eq, ih h.2]
    by_cases hk : key = k
    · subst hk
      have : rest.lookup key = none := lookup_eq_none_of_before h.1
      simp [this, eq_comm]
    · simp [hk]

/-! ## Which keys an index has -/

theorem contains_alter (index : Index V) (key k : Text) (f : Option V → V) :
    (index.alter key f).contains k = (k = key || index.contains k) := by
  unfold contains
  rw [get?_alter]
  by_cases h : k = key <;> simp [h]

theorem contains_insert (index : Index V) (key k : Text) (value : V) :
    (index.insert key value).contains k = (k = key || index.contains k) :=
  contains_alter index key k _

theorem mem_keys_iff {index : Index V} {key : Text} :
    key ∈ index.keys ↔ index.contains key = true := by
  simp [keys, contains, Option.isSome_iff_exists, mem_entries_iff]

theorem pairwise_keys (index : Index V) : index.keys.Pairwise fun a b => a.before b = true :=
  List.pairwise_map.mpr index.ascending

theorem nodup_keys (index : Index V) : index.keys.Nodup := by
  refine index.pairwise_keys.imp fun hbefore heq => ?_
  rw [heq, Text.before_irrefl] at hbefore
  cases hbefore

theorem contains_ofKeys (keys : List Text) (key : Text) :
    (ofKeys keys).contains key = decide (key ∈ keys) := by
  suffices ∀ index : Index Unit,
      (keys.foldl (fun index key => index.insert key ()) index).contains key =
        (decide (key ∈ keys) || index.contains key) by
    simpa [contains, ofKeys] using this ∅
  induction keys with
  | nil => simp
  | cons k rest ih =>
    intro index
    rw [List.foldl_cons, ih, contains_insert]
    by_cases h : key = k <;> simp [h]

/-! ## Sums -/

theorem foldr_add_eq_zero_iff (size : V → Nat) {entries : List (Text × V)} :
    entries.foldr (fun entry sum => size entry.2 + sum) 0 = 0 ↔
      ∀ entry ∈ entries, size entry.2 = 0 := by
  induction entries with
  | nil => simp
  | cons entry rest ih => rw [List.foldr_cons, Nat.add_eq_zero_iff, ih, List.forall_mem_cons]

/-- A sum of counts is zero if and only if each count is. -/
theorem sum_eq_zero_iff {index : Index Nat} :
    index.sum = 0 ↔ ∀ key, (index.get? key).getD 0 = 0 := by
  refine (foldr_add_eq_zero_iff id).trans ⟨fun h key => ?_, ?_⟩
  · cases hget : index.get? key with
    | none => rfl
    | some count => exact h (key, count) (mem_entries_iff.mpr hget)
  · rintro h ⟨key, count⟩ hmem
    simpa [mem_entries_iff.mp hmem] using h key

/-! ## Indexes with the same values -/

/-- Ascending entries are determined by their members. -/
theorem entries_eq_of_mem_iff {as bs : List (Text × V)}
    (ha : as.Pairwise fun a b => a.1.before b.1 = true)
    (hb : bs.Pairwise fun a b => a.1.before b.1 = true) (h : ∀ e, e ∈ as ↔ e ∈ bs) :
    as = bs := by
  induction as generalizing bs with
  | nil => exact (List.eq_nil_iff_forall_not_mem.mpr fun e he => by simpa using (h e).mpr he).symm
  | cons a as ih =>
    cases bs with
    | nil => simpa using (h a).mp List.mem_cons_self
    | cons b bs =>
      rw [List.pairwise_cons] at ha hb
      -- the first entries are equal, as each is a member of the other list and neither comes first
      have not_both {x y : Text × V} (hxy : x.1.before y.1 = true) : ¬ y.1.before x.1 = true :=
        fun hyx => by simpa [Text.before_irrefl] using Text.before_trans hxy hyx
      have hab : a = b := by
        rcases List.mem_cons.mp ((h a).mp List.mem_cons_self) with e | hab
        · exact e
        · rcases List.mem_cons.mp ((h b).mpr List.mem_cons_self) with e | hba
          · exact e.symm
          · exact absurd (hb.1 a hab) (not_both (ha.1 b hba))
      subst hab
      congr 1
      refine ih ha.2 hb.2 fun e => ⟨fun he => ?_, fun he => ?_⟩
      · refine ((List.mem_cons.mp ((h e).mp (List.mem_cons_of_mem _ he))).resolve_left ?_)
        rintro rfl
        simpa [Text.before_irrefl] using ha.1 e he
      · refine ((List.mem_cons.mp ((h e).mpr (List.mem_cons_of_mem _ he))).resolve_left ?_)
        rintro rfl
        simpa [Text.before_irrefl] using hb.1 e he

/-- An index is determined by its values. -/
theorem ext_get? {a b : Index V} (h : ∀ key, a.get? key = b.get? key) : a = b := by
  refine Index.ext (entries_eq_of_mem_iff a.ascending b.ascending fun e => ?_)
  rw [show e = (e.1, e.2) from rfl, mem_entries_iff, mem_entries_iff, h]

/-- Altering an inserted value inserts the altered one. -/
theorem alter_insert (index : Index V) (key : Text) (value : V) (f : Option V → V) :
    (index.insert key value).alter key f = index.insert key (f (some value)) := by
  refine ext_get? fun k => ?_
  rw [get?_alter, get?_insert, get?_insert, get?_insert, if_pos rfl]
  by_cases h : k = key <;> simp [h]

/-! ## Tallies -/

theorem get?_increment (index : Index Nat) (key k : Text) :
    (index.increment key).get? k =
      if k = key then some ((index.get? key).getD 0 + 1) else index.get? k :=
  get?_alter index key k _

theorem get?_foldl_increment (index : Index Nat) (keys : List Text) (key : Text) :
    (keys.foldl increment index).get? key =
      if key ∈ keys then some ((index.get? key).getD 0 + keys.count key) else index.get? key := by
  induction keys generalizing index with
  | nil => simp
  | cons first rest ih =>
    rw [List.foldl_cons, ih, get?_increment]
    by_cases hfirst : key = first
    · subst hfirst
      by_cases hrest : key ∈ rest
      · simp [hrest]; omega
      · simp [hrest, List.count_eq_zero_of_not_mem hrest]
    · simp [hfirst, Ne.symm hfirst]

/-- **A tally** holds each of its keys with the number of times that it is given. -/
theorem get?_tally (keys : List Text) (key : Text) :
    (tally keys).get? key = if key ∈ keys then some (keys.count key) else none := by
  rw [tally, get?_foldl_increment]
  simp

theorem foldr_add_alterEntries (key : Text) (entries : List (Text × Nat)) :
    (alterEntries key (fun count => count.getD 0 + 1) entries).foldr
        (fun entry sum => entry.2 + sum) 0 =
      entries.foldr (fun entry sum => entry.2 + sum) 0 + 1 := by
  induction entries with
  | nil => rfl
  | cons entry rest ih =>
    obtain ⟨k, count⟩ := entry
    unfold alterEntries
    -- the key is found, or it is new, or it goes into the rest
    split
    · simp only [List.foldr_cons, Option.getD_some]
      omega
    · split
      · simp only [List.foldr_cons, Option.getD_none]
        omega
      · simp only [List.foldr_cons, ih]
        omega

theorem sum_increment (index : Index Nat) (key : Text) :
    (index.increment key).sum = index.sum + 1 :=
  foldr_add_alterEntries key index.entries

/-- **A tally counts as many keys as are given.** -/
theorem sum_tally (keys : List Text) : (tally keys).sum = keys.length := by
  suffices ∀ index : Index Nat, (keys.foldl increment index).sum = index.sum + keys.length by
    exact (this ∅).trans (Nat.zero_add _)
  induction keys with
  | nil => exact fun _ => rfl
  | cons key rest ih =>
    intro index
    rw [List.foldl_cons, ih, sum_increment, List.length_cons]
    omega

end Index

end BuildSummary
