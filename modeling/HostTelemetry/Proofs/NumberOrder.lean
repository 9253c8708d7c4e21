import HostTelemetry.Kernel.Source
import HostTelemetry.Proofs.NumberText
import Mathlib.Data.List.Basic
import Mathlib.Data.List.Induction

/-!
# Names in the order of their numbers

A directory gives its names in any order. Those that are numbers, or end in one, are read in the
order of the numbers, each of them once; where no number occurs twice this order is strict, and then
it is the only one.
-/

namespace HostTelemetry.Kernel

open Decimal (readNatural? limit32 natText)

/-! ### Sorting -/

section Sorting

variable {α : Type}

theorem perm_insertByNumber (x : Nat × α) (l : List (Nat × α)) :
    (insertByNumber x l).Perm (x :: l) := by
  induction l with
  | nil => exact .refl [x]
  | cons y r ih =>
    unfold insertByNumber
    split
    · exact .refl _
    · exact (ih.cons y).trans (.swap x y r)

theorem sorted_insertByNumber (x : Nat × α) {l : List (Nat × α)} (h : l.Pairwise (·.1 ≤ ·.1)) :
    (insertByNumber x l).Pairwise (·.1 ≤ ·.1) := by
  induction l with
  | nil => exact List.pairwise_singleton _ x
  | cons y r ih =>
    obtain ⟨hfirst, hrest⟩ := List.pairwise_cons.1 h
    unfold insertByNumber
    split
    · next hlt =>
      refine List.pairwise_cons.2 ⟨fun z hz => ?_, h⟩
      rcases List.mem_cons.1 hz with rfl | hz
      · exact hlt.le
      · exact hlt.le.trans (hfirst z hz)
    · next hle =>
      refine List.pairwise_cons.2 ⟨fun z hz => ?_, ih hrest⟩
      rcases List.mem_cons.1 ((perm_insertByNumber x r).mem_iff.1 hz) with rfl | hz
      · exact not_lt.1 hle
      · exact hfirst z hz

theorem sortByNumber_concat (l : List (Nat × α)) (x : Nat × α) :
    sortByNumber (l ++ [x]) = insertByNumber x (sortByNumber l) := List.foldl_concat ..

theorem perm_sortByNumber (l : List (Nat × α)) : (sortByNumber l).Perm l := by
  induction l using List.reverseRecOn with
  | nil => exact .refl []
  | append_singleton l x ih =>
    rw [sortByNumber_concat]
    exact (perm_insertByNumber x _).trans ((ih.cons x).trans (List.perm_append_singleton x l).symm)

theorem sorted_sortByNumber (l : List (Nat × α)) : (sortByNumber l).Pairwise (·.1 ≤ ·.1) := by
  induction l using List.reverseRecOn with
  | nil => exact .nil
  | append_singleton l x ih =>
    rw [sortByNumber_concat]
    exact sorted_insertByNumber x ih

theorem ascending_sortByNumber {l : List (Nat × α)} (h : (l.map (·.1)).Nodup) :
    ((sortByNumber l).map (·.1)).Pairwise (· < ·) := by
  have hdistinct : ((sortByNumber l).map (·.1)).Nodup :=
    ((perm_sortByNumber l).map _).nodup_iff.2 h
  have hsorted : ((sortByNumber l).map (·.1)).Pairwise (· ≤ ·) :=
    List.pairwise_map.2 (sorted_sortByNumber l)
  exact hsorted.imp₂ (fun _ _ hle hne => lt_of_le_of_ne hle hne) hdistinct

end Sorting

/-- Two lists of the same numbers in strictly ascending order are the same. -/
theorem eq_of_ascending {k l : List Nat} (hk : k.Pairwise (· < ·)) (hl : l.Pairwise (· < ·))
    (h : ∀ n, n ∈ k ↔ n ∈ l) : k = l := by
  have hperm : k.Perm l :=
    (List.perm_ext_iff_of_nodup (hk.imp fun hlt => hlt.ne) (hl.imp fun hlt => hlt.ne)).2 h
  exact hperm.eq_of_pairwise (fun _ _ _ _ hab hba => absurd hab hba.not_gt) hk hl

/-! ### Numbers among names -/

theorem mem_processIds {names : List String} {pid : Nat} :
    pid ∈ processIds names ↔ ∃ name ∈ names, readNatural? limit32 name.toList = some pid := by
  unfold processIds
  dsimp only
  rw [((perm_sortByNumber _).map _).mem_iff, List.map_map, List.mem_map]
  simp [List.mem_filterMap]

theorem lt_of_mem_processIds {names : List String} {pid : Nat} (h : pid ∈ processIds names) :
    pid < limit32 := by
  obtain ⟨name, -, hread⟩ := mem_processIds.1 h
  obtain ⟨-, -, -, -, -, hlt⟩ := Decimal.readNatural?_eq_some_iff.1 hread
  exact hlt

/-- The names in a directory, no two of them the same, where every one that is read as a number is
written as this number is. -/
structure CanonicalNames (names : List String) : Prop where
  distinct : names.Nodup
  canonical : ∀ name ∈ names, ∀ pid, readNatural? limit32 name.toList = some pid →
    name = natText pid

namespace CanonicalNames

variable {names : List String}

theorem mem_processIds (h : CanonicalNames names) {pid : Nat} :
    pid ∈ processIds names ↔ pid < limit32 ∧ natText pid ∈ names := by
  constructor
  · intro hmem
    obtain ⟨name, hname, hread⟩ := Kernel.mem_processIds.1 hmem
    exact ⟨lt_of_mem_processIds hmem, h.canonical name hname pid hread ▸ hname⟩
  · rintro ⟨hlt, hmem⟩
    exact Kernel.mem_processIds.2 ⟨_, hmem, Decimal.readNatural?_natText hlt⟩

theorem ascending_processIds (h : CanonicalNames names) :
    (processIds names).Pairwise (· < ·) := by
  unfold processIds
  dsimp only
  refine ascending_sortByNumber ?_
  rw [List.map_map, Function.comp_def, List.map_id', List.Nodup, List.pairwise_filterMap]
  refine h.distinct.imp_of_mem ?_
  intro a b ha hb hab i hi j hj hij
  rw [h.canonical a ha i hi, h.canonical b hb j hj, hij] at hab
  exact hab rfl

end CanonicalNames

end HostTelemetry.Kernel
