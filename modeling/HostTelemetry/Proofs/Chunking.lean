import HostTelemetry.Chunk
import HostTelemetry.Proofs.InstanceMap
import HostTelemetry.Store.Backend
import Mathlib.Data.List.Perm.Basic

/-!
# How rows are cut into chunks

Whatever is delivered meanwhile, a chunker cuts the points it is given into consecutive groups: a
group is full with the element that takes its size over the threshold, and the elements behind the
last full group stay open. A chunk carries the points of one group. The rows of a store are pushed
instance by instance.
-/

namespace HostTelemetry

/-! ### Groups -/

section Cut

variable {α : Type} (full : List α → Bool)

/-- The groups that are full after some more elements, and the elements that are then open. -/
def cut : List α → List α → List (List α) × List α
  | opened, [] => ([], opened)
  | opened, a :: rest =>
    if full (opened ++ [a]) then ((opened ++ [a]) :: (cut [] rest).1, (cut [] rest).2)
    else cut (opened ++ [a]) rest

theorem cut_append (opened a b : List α) :
    cut full opened (a ++ b) =
      ((cut full opened a).1 ++
          (cut full (cut full opened a).2 b).1,
        (cut full (cut full opened a).2 b).2) := by
  induction a generalizing opened with
  | nil => rfl
  | cons x a ih =>
    rw [List.cons_append, cut, cut]
    split
    · simp only [ih, List.cons_append]
    · rw [ih]

theorem flatten_cut (opened l : List α) :
    (cut full opened l).1.flatten ++ (cut full opened l).2 = opened ++ l := by
  induction l generalizing opened with
  | nil => simp [cut]
  | cons a l ih =>
    rw [cut]
    split
    · have h := ih []
      rw [List.flatten_cons, List.append_assoc, h]
      simp
    · rw [ih, List.append_assoc, List.singleton_append]

theorem ne_nil_of_mem_cut (opened l : List α) :
    ∀ g ∈ (cut full opened l).1, g ≠ [] := by
  induction l generalizing opened with
  | nil =>
    intro g hg
    cases hg
  | cons a l ih =>
    rw [cut]
    split
    · intro g hg
      rcases List.mem_cons.1 hg with rfl | hg
      · exact List.append_ne_nil_of_right_ne_nil _ (List.cons_ne_nil a [])
      · exact ih [] g hg
    · exact ih (opened ++ [a])

/-- The open elements as a last group, unless there are none. -/
def lastGroup (opened : List α) : List (List α) := if opened.isEmpty then [] else [opened]

def groups (l : List α) : List (List α) :=
  (cut full [] l).1 ++ lastGroup (cut full [] l).2

theorem flatten_lastGroup (opened : List α) : (lastGroup opened).flatten = opened := by
  cases opened with
  | nil => rfl
  | cons a l => simp [lastGroup]

/-- Every element is in exactly one group, in its place. -/
theorem flatten_groups (l : List α) : (groups full l).flatten = l := by
  rw [groups, List.flatten_append, flatten_lastGroup, flatten_cut, List.nil_append]

theorem ne_nil_of_mem_groups (l : List α) : ∀ g ∈ groups full l, g ≠ [] := by
  intro g hg
  rcases List.mem_append.1 hg with hg | hg
  · exact ne_nil_of_mem_cut full [] l g hg
  · unfold lastGroup at hg
    split at hg
    · cases hg
    · next h =>
      rw [List.mem_singleton.1 hg]
      simpa using h

end Cut

/-! ### Chunks of groups -/

namespace Chunker

open Wire (Entry Point InstanceMap)

def bytesOf (es : List Entry) : Nat := es.foldl (fun n e => n + pointBytes e.2) 0

theorem bytesOf_append (es : List Entry) (e : Entry) :
    bytesOf (es ++ [e]) = bytesOf es + pointBytes e.2 := by
  simp [bytesOf]

def chunk (c : Chunker) (es : List Entry) : Chunk :=
  ⟨InstanceMap.ofEntries c.component c.timestamp es, bytesOf es⟩

theorem pointCount_chunk (c : Chunker) (es : List Entry) : (c.chunk es).pointCount = es.length :=
  InstanceMap.pointCount_ofEntries ..

def holding (c : Chunker) (es : List Entry) : Chunker :=
  { c with current := (c.chunk es).instances, currentBytes := (c.chunk es).contentBytes }

/-- A point closes the chunk or stays in it. -/
theorem push_holding (c : Chunker) (es : List Entry) (e : Entry) :
    (c.holding es).push e.1 e.2 =
      if bytesOf (es ++ [e]) > c.threshold then (some (c.chunk (es ++ [e])), c.holding [])
      else (none, c.holding (es ++ [e])) := by
  simp only [chunk, holding, bytesOf_append, InstanceMap.ofEntries_append]
  rfl

theorem finish_holding (c : Chunker) (es : List Entry) :
    (c.holding es).finish = if es.isEmpty then none else some (c.chunk es) := by
  have h := InstanceMap.ofEntries_eq_nil_iff c.component c.timestamp es
  by_cases hes : es = []
  · subst hes
    rfl
  · have hne : (c.holding es).current.isEmpty = false :=
      List.isEmpty_eq_false_iff.2 fun h0 => hes (h.1 h0)
    have hes' : es.isEmpty = false := by simpa using hes
    rw [finish, hne, hes']
    rfl

end Chunker

/-! ### The order of pushes -/

def rowsUnder (names : List String) (rows : List Row) : List Row :=
  names.flatMap fun name => rows.filter (·.instanceName == name)

/-- Rows instance by instance: the instances in the order of their first rows, and the rows of one
instance in their order. -/
def byInstance (rows : List Row) : List Row := rowsUnder (instancesOf rows) rows

/-- Picking rows name by name, and then those of no name, loses and doubles none. -/
theorem perm_rowsUnder (names : List String) (h : names.Nodup) (rows : List Row) :
    (rowsUnder names rows ++ rows.filter fun r => r.instanceName ∉ names).Perm rows := by
  induction names generalizing rows with
  | nil => simp [rowsUnder]
  | cons name names ih =>
    obtain ⟨hn, hnd⟩ := List.nodup_cons.1 h
    have hsplit := List.filter_append_perm (fun r : Row => r.instanceName == name) rows
    refine List.Perm.trans ?_ hsplit
    rw [rowsUnder, List.flatMap_cons, List.append_assoc]
    refine List.Perm.append_left _ ?_
    -- The rows of the other names, and those of no name, are among the rest.
    refine List.Perm.trans (List.Perm.of_eq ?_)
      (ih hnd (rows.filter fun r => !(r.instanceName == name)))
    congr 1
    · refine List.flatMap_congr fun m hm => ?_
      rw [List.filter_filter]
      refine List.filter_congr fun r _ => ?_
      by_cases hr : r.instanceName = m
      · have hm' : m ≠ name := fun he => hn (he ▸ hm)
        simp [hr, hm']
      · simp [hr]
    · rw [List.filter_filter]
      refine List.filter_congr fun r _ => ?_
      by_cases hr : r.instanceName = name
      · simp [hr]
      · simp [hr]

theorem perm_byInstance (rows : List Row) : (byInstance rows).Perm rows := by
  have h := perm_rowsUnder (instancesOf rows) (nodup_eraseDups _) rows
  have hrest : (rows.filter fun r => r.instanceName ∉ instancesOf rows) = [] := by
    rw [List.filter_eq_nil_iff]
    intro r hr
    have hm : r.instanceName ∈ instancesOf rows :=
      List.mem_eraseDups.2 (List.mem_map.2 ⟨r, hr, rfl⟩)
    simpa using hm
  rw [hrest, List.append_nil] at h
  exact h

end HostTelemetry
