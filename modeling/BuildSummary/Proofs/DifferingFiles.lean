import Mathlib.Data.List.Nodup
import Mathlib.Logic.Basic
import BuildSummary.Proofs.SameFiles

/-!
# Which files differ

The files of each checker are compared with those of the first one, up to a checker that ran on
other files. The error names these two and lists the files that exactly one of them analysed,
whichever it is, each once and in ascending order. What is compared after that checker plays no part
in it, so a record that is refused has one error that describes it.

## Main definitions

* `Findings.SameFiles`: two checkers analysed the same files
* `IsDifference`: a list of the files that exactly one of two checkers analysed
* `InconsistentFiles.Describes`: the error tells how the C++ checkers of a record differ

## Main results

* `isDifference_iff`: there is at most one list of the files that differ
* `forM_eq_error_iff`: steps fail with the error of the first one that does
* `checkSameFiles_eq_error_iff`: the error is about the first checker that ran on other files
* `Report.ofRecord_eq_error_iff`: what the error is if there is no report
-/

namespace BuildSummary

variable {a b reference findings : Findings} {files : List Text} {file : Text}
  {first checker : Checker} {e : InconsistentFiles}

/-! ## Two checkers -/

/-- Both checkers analysed the same files. -/
def Findings.SameFiles (a b : Findings) : Prop :=
  ∀ file, file ∈ a.files ↔ file ∈ b.files

theorem Findings.sameFiles_iff : a.SameFiles b ↔ ∀ file, a.contains file = b.contains file := by
  refine forall_congr' fun file => ?_
  rw [files, files, Index.mem_keys_iff, Index.mem_keys_iff, ← Bool.eq_iff_iff]

/-- The files are those that exactly one of two checkers analysed, strictly ascending, and there is
one. -/
structure IsDifference (a b : Findings) (files : List Text) : Prop where
  ne_nil : files ≠ []
  ascending : files.Pairwise fun file next => file.before next = true
  nodup : files.Nodup
  mem_iff : ∀ file, file ∈ files ↔ Xor (file ∈ a.files) (file ∈ b.files)

theorem mem_filesInOne_iff_xor :
    file ∈ filesInOne a b ↔ Xor (file ∈ a.files) (file ∈ b.files) := by
  rw [mem_filesInOne_iff, xor_iff_not_iff, Findings.files, Findings.files, Index.mem_keys_iff,
    Index.mem_keys_iff, ne_eq, Bool.eq_iff_iff]

/-- **There is at most one list of the files that differ**, the one that is compiled from both
checkers. -/
theorem isDifference_iff :
    IsDifference a b files ↔ files ≠ [] ∧ files = filesInOne a b := by
  constructor
  · intro h
    refine ⟨h.ne_nil, ?_⟩
    have hperm : files.Perm (filesInOne a b) :=
      (List.perm_ext_iff_of_nodup h.nodup (Index.nodup_keys _)).mpr fun file =>
        (h.mem_iff file).trans mem_filesInOne_iff_xor.symm
    refine hperm.eq_of_pairwise ?_ h.ascending (Index.pairwise_keys _)
    -- of two files only one comes before the other
    intro file next _ _ hbefore hafter
    have hself := Text.before_trans hbefore hafter
    rw [Text.before_irrefl] at hself
    cases hself
  · rintro ⟨hne, rfl⟩
    exact ⟨hne, Index.pairwise_keys _, Index.nodup_keys _, fun _ => mem_filesInOne_iff_xor⟩

/-- Checkers that ran on the same files have no files that differ. -/
theorem IsDifference.not_sameFiles (h : IsDifference a b files) : ¬ a.SameFiles b := by
  intro hsame
  obtain ⟨file, hfile⟩ := List.exists_mem_of_ne_nil files h.ne_nil
  exact (xor_iff_not_iff _ _).mp ((h.mem_iff file).mp hfile) (hsame file)

/-- **Two checkers are told apart** by the files that exactly one of them analysed. -/
theorem compareFiles_eq_error_iff :
    compareFiles first reference checker findings = .error e ↔
      e.first = first.name ∧ e.second = checker.name ∧ IsDifference reference findings e.files := by
  rw [isDifference_iff]
  obtain ⟨name, other, files⟩ := e
  unfold compareFiles
  cases hfiles : filesInOne reference findings with
  | nil =>
    refine iff_of_false nofun ?_
    rintro ⟨-, -, hne, hnil⟩
    exact hne hnil
  | cons file rest =>
    rw [Except.error.injEq, InconsistentFiles.mk.injEq]
    constructor
    · rintro ⟨rfl, rfl, rfl⟩
      exact ⟨rfl, rfl, List.cons_ne_nil file rest, rfl⟩
    · rintro ⟨rfl, rfl, -, rfl⟩
      exact ⟨rfl, rfl, rfl⟩

/-! ## All checkers -/

/-- **Steps fail with the error of the first one that does.** -/
theorem forM_eq_error_iff {α ε : Type} {step : α → Except ε Unit} {list : List α} {error : ε} :
    list.forM step = .error error ↔ ∃ before x after, list = before ++ x :: after ∧
      (∀ earlier ∈ before, step earlier = .ok ()) ∧ step x = .error error := by
  induction list with
  | nil =>
    refine iff_of_false nofun ?_
    rintro ⟨before, x, after, hlist, -⟩
    exact List.append_ne_nil_of_right_ne_nil before (List.cons_ne_nil x after) hlist.symm
  | cons head tail ih =>
    show (step head >>= fun _ => tail.forM step) = _ ↔ _
    rw [bind_eq_error_iff, ih]
    constructor
    · rintro (hhead | ⟨⟨⟩, hhead, before, x, after, rfl, hbefore, hx⟩)
      · exact ⟨[], head, tail, rfl, nofun, hhead⟩
      · exact ⟨head :: before, x, after, rfl, List.forall_mem_cons.mpr ⟨hhead, hbefore⟩, hx⟩
    · rintro ⟨before, x, after, hlist, hbefore, hx⟩
      cases before with
      | nil =>
        obtain ⟨rfl, -⟩ := List.cons.inj hlist
        exact .inl hx
      | cons head' before =>
        obtain ⟨rfl, rfl⟩ := List.cons.inj hlist
        obtain ⟨hhead, hbefore⟩ := List.forall_mem_cons.mp hbefore
        exact .inr ⟨(), hhead, before, x, after, rfl, hbefore, hx⟩

/-- Checkers that all ran, with what they reported. -/
def allRan (checkers : List (Checker × Findings)) : List (Checker × Option Findings) :=
  checkers.map fun (checker, findings) => (checker, some findings)

theorem mapM_eq_some_iff_allRan {checkers : List (Checker × Option Findings)}
    {ran : List (Checker × Findings)} :
    (checkers.mapM fun (checker, findings) => findings.map (checker, ·)) = some ran ↔
      checkers = allRan ran := by
  induction checkers generalizing ran with
  | nil => cases ran <;> simp [allRan]
  | cons head tail ih =>
    obtain ⟨checker, findings⟩ := head
    rw [List.mapM_cons]
    cases findings with
    | none => cases ran <;> simp [allRan]
    | some findings =>
      simp only [Option.map_some, Option.bind_eq_bind, Option.bind_some, Option.bind_eq_some_iff,
        ih, Option.pure_def, Option.some.injEq]
      constructor
      · rintro ⟨rest, rfl, rfl⟩
        rfl
      · intro h
        cases ran with
        | nil => cases h
        | cons head rest =>
          obtain ⟨hhead, rfl⟩ := List.cons.inj h
          cases hhead
          exact ⟨rest, rfl, rfl⟩

/-- **The error is about the first checker that ran on other files** than the one at the head of the
list, if all of them ran. -/
theorem checkSameFiles_eq_error_iff {checkers : List (Checker × Option Findings)} :
    checkSameFiles checkers = .error e ↔ ∃ first reference before checker findings after,
      checkers = allRan ((first, reference) :: (before ++ (checker, findings) :: after)) ∧
        (∀ earlier ∈ before, reference.SameFiles earlier.2) ∧
        e.first = first.name ∧ e.second = checker.name ∧
          IsDifference reference findings e.files := by
  constructor
  · intro h
    unfold checkSameFiles at h
    split at h
    case h_1 first reference others hran =>
      obtain ⟨before, ⟨checker, findings⟩, after, rfl, hbefore, herror⟩ := forM_eq_error_iff.mp h
      refine ⟨first, reference, before, checker, findings, after,
        mapM_eq_some_iff_allRan.mp hran, fun earlier hmem => ?_,
        compareFiles_eq_error_iff.mp herror⟩
      exact Findings.sameFiles_iff.mpr (compareFiles_eq_ok_iff.mp (hbefore earlier hmem))
    case h_2 => cases h
  · rintro ⟨first, reference, before, checker, findings, after, hcheckers, hbefore, he⟩
    unfold checkSameFiles
    rw [mapM_eq_some_iff_allRan.mpr hcheckers]
    refine forM_eq_error_iff.mpr ⟨before, (checker, findings), after, rfl, fun earlier hmem => ?_,
      compareFiles_eq_error_iff.mpr he⟩
    exact compareFiles_eq_ok_iff.mpr (Findings.sameFiles_iff.mp (hbefore earlier hmem))

/-- Cppcheck ran on the same files, and clang-format missed one of them and ran on another one. -/
example :
    let ran (files : List Text) : Findings := files.foldl Findings.begin ∅
    checkSameFiles [(.vera, some (ran ["b", "c"])), (.cppcheck, some (ran ["c", "b"])),
        (.clangFormat, some (ran ["b", "a"]))] =
      .error ⟨"VERA++", "clang-format", ["a", "c"]⟩ := by
  rfl

/-! ## The C++ checkers -/

section CppCheckers

variable {record : BuildRecord}

theorem cppCheckers_eq_allRan_iff {ran : List (Checker × Findings)} :
    record.cppCheckers = allRan ran ↔ ∃ vera cppcheck clangFormat,
      record.vera = some vera ∧ record.cppcheck = some cppcheck ∧
        record.clangFormat = some clangFormat ∧
        ran = [(.vera, vera), (.cppcheck, cppcheck), (.clangFormat, clangFormat)] := by
  constructor
  · intro h
    obtain ⟨⟨_, vera⟩, ran, rfl, hfirst, h⟩ := List.map_eq_cons_iff.mp h.symm
    obtain ⟨⟨_, cppcheck⟩, ran, rfl, hsecond, h⟩ := List.map_eq_cons_iff.mp h
    obtain ⟨⟨_, clangFormat⟩, ran, rfl, hthird, h⟩ := List.map_eq_cons_iff.mp h
    obtain rfl := List.map_eq_nil_iff.mp h
    obtain ⟨rfl, hvera⟩ := Prod.mk.inj hfirst
    obtain ⟨rfl, hcppcheck⟩ := Prod.mk.inj hsecond
    obtain ⟨rfl, hformat⟩ := Prod.mk.inj hthird
    exact ⟨vera, cppcheck, clangFormat, hvera.symm, hcppcheck.symm, hformat.symm, rfl⟩
  · rintro ⟨vera, cppcheck, clangFormat, hvera, hcppcheck, hformat, rfl⟩
    rw [BuildRecord.cppCheckers, hvera, hcppcheck, hformat]
    rfl

/-- The error describes how the C++ checkers differ. All of them ran; it names VERA++ and Cppcheck
if these ran on different files, and else VERA++ and clang-format, which then did; and it lists the
files that exactly one of the two analysed. -/
def InconsistentFiles.Describes (e : InconsistentFiles) (record : BuildRecord) : Prop :=
  ∃ vera cppcheck clangFormat, record.vera = some vera ∧ record.cppcheck = some cppcheck ∧
    record.clangFormat = some clangFormat ∧ e.first = "VERA++" ∧
      (¬ vera.SameFiles cppcheck ∧ e.second = "Cppcheck" ∧ IsDifference vera cppcheck e.files ∨
        vera.SameFiles cppcheck ∧ ¬ vera.SameFiles clangFormat ∧ e.second = "clang-format" ∧
          IsDifference vera clangFormat e.files)

theorem checkSameFiles_cppCheckers_eq_error_iff :
    checkSameFiles record.cppCheckers = .error e ↔ e.Describes record := by
  rw [checkSameFiles_eq_error_iff]
  constructor
  · rintro ⟨first, reference, before, checker, findings, after, hcheckers, hbefore, hnames⟩
    obtain ⟨vera, cppcheck, clangFormat, hvera, hcppcheck, hformat, hran⟩ :=
      cppCheckers_eq_allRan_iff.mp hcheckers
    refine ⟨vera, cppcheck, clangFormat, hvera, hcppcheck, hformat, ?_⟩
    obtain ⟨hhead, htail⟩ := List.cons.inj hran
    obtain ⟨rfl, rfl⟩ := Prod.mk.inj hhead
    obtain ⟨hfirst, hsecond, hfiles⟩ := hnames
    refine ⟨hfirst, ?_⟩
    -- the error is about Cppcheck if nothing comes before it, and about clang-format else
    match before with
    | [] =>
      cases htail
      exact .inl ⟨hfiles.not_sameFiles, hsecond, hfiles⟩
    | [earlier] =>
      cases htail
      exact .inr ⟨hbefore _ List.mem_cons_self, hfiles.not_sameFiles, hsecond, hfiles⟩
    | earlier :: next :: before => simp at htail
  · rintro ⟨vera, cppcheck, clangFormat, hvera, hcppcheck, hformat, hfirst, hsecond⟩
    have hran := cppCheckers_eq_allRan_iff.mpr
      ⟨vera, cppcheck, clangFormat, hvera, hcppcheck, hformat, rfl⟩
    rcases hsecond with ⟨-, hsecond, hfiles⟩ | ⟨hsame, -, hsecond, hfiles⟩
    · exact ⟨.vera, vera, [], .cppcheck, cppcheck, [(.clangFormat, clangFormat)], hran, nofun,
        hfirst, hsecond, hfiles⟩
    · exact ⟨.vera, vera, [(.cppcheck, cppcheck)], .clangFormat, clangFormat, [], hran,
        List.forall_mem_singleton.mpr hsame, hfirst, hsecond, hfiles⟩

end CppCheckers

namespace Report

/-- **What the error is if there is no report.** Some checker reported something, and the error
describes how the C++ checkers differ, which no other error does. -/
theorem ofRecord_eq_error_iff (style : TableStyle) (policy : Policy) (record : BuildRecord)
    (e : InconsistentFiles) :
    ofRecord style policy record = .error e ↔
      record.hasFindings = true ∧ e.Describes record := by
  rw [← checkSameFiles_cppCheckers_eq_error_iff]
  unfold ofRecord
  cases hfindings : record.hasFindings with
  | false => exact iff_of_false nofun nofun
  | true =>
    rw [if_pos rfl, bind_eq_error_iff, and_iff_right rfl]
    exact or_iff_left nofun

end Report

end BuildSummary
