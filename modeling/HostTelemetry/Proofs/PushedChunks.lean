import HostTelemetry.Proofs.Chunking
import Mathlib.Data.List.ReduceOption

/-!
# The chunks of some pushes

Points are pushed under any names in any order. What the pushes return and what is left at the end
are chunks that together hold every point once: below each name in the order of its pushes, and in
the order of all pushes if the names are not mixed.
-/

namespace HostTelemetry

open Wire (Entry Point InstanceMap entryNames pointsNamed)

/-! ### What a chunk holds -/

namespace Chunk

/-- The points of a chunk under their names, in the order in which they stand in it. -/
def entries (c : Chunk) : List Entry :=
  c.instances.flatMap fun d => d.timeline.flatMap fun e => e.2.points.map fun p => (d.name, p)

/-- A chunk has points, and one entry for each name: with points, all under one timestamp. -/
structure WellFormed (timestamp : Int) (component : Option String) (c : Chunk) : Prop where
  inhabited : c.entries ≠ []
  names : (c.instances.map (·.name)).Nodup
  instances : ∀ d ∈ c.instances, d.component = component ∧
    ∃ points, points ≠ [] ∧ d.timeline = [(timestamp, ⟨timestamp, points⟩)]

end Chunk

theorem map_pointsNamed (es : List Entry) (name : String) :
    (pointsNamed es name).map (fun p => (name, p)) = es.filter fun e => e.1 == name := by
  rw [pointsNamed, List.map_map]
  refine (List.map_congr_left ?_).trans (List.map_id _)
  intro e he
  have hname := eq_of_beq (List.mem_filter.1 he).2
  rw [Function.comp_apply, ← hname]
  rfl

theorem flatMap_ite_of_nodup {α : Type} {names : List String} (h : names.Nodup) (a : String)
    (l : List α) : (names.flatMap fun n => if n = a then l else []) = if a ∈ names then l else [] := by
  induction names with
  | nil => rfl
  | cons n names ih =>
    obtain ⟨hn, hnames⟩ := List.nodup_cons.1 h
    rw [List.flatMap_cons, ih hnames]
    by_cases ha : n = a
    · subst ha
      simp [hn]
    · simp [ha, Ne.symm ha]

theorem pointsNamed_flatMap {α : Type} (l : List α) (f : α → List Entry) (name : String) :
    pointsNamed (l.flatMap f) name = l.flatMap fun a => pointsNamed (f a) name := by
  rw [pointsNamed, List.filter_flatMap, List.map_flatMap]
  rfl

namespace Chunker

variable (c : Chunker)

theorem entries_chunk (es : List Entry) :
    (c.chunk es).entries = (entryNames es).flatMap fun n => es.filter fun e => e.1 == n := by
  rw [Chunk.entries, chunk, InstanceMap.ofEntries_eq, List.flatMap_map]
  refine List.flatMap_congr fun n _ => ?_
  rw [← map_pointsNamed]
  exact List.flatMap_singleton ..

theorem pointsNamed_chunk (es : List Entry) (name : String) :
    pointsNamed (c.chunk es).entries name = pointsNamed es name := by
  have hone : ∀ n, pointsNamed (es.filter fun e => e.1 == n) name =
      if n = name then pointsNamed es name else [] := by
    intro n
    rw [pointsNamed, List.filter_filter]
    split
    · next h =>
      subst h
      simp [pointsNamed]
    · next h =>
      rw [List.map_eq_nil_iff, List.filter_eq_nil_iff]
      intro e _ hboth
      rw [Bool.and_eq_true, beq_iff_eq, beq_iff_eq] at hboth
      exact h (hboth.2.symm.trans hboth.1)
  rw [entries_chunk, pointsNamed_flatMap]
  simp only [hone]
  rw [flatMap_ite_of_nodup (Wire.nodup_entryNames es)]
  split
  · rfl
  · next h => exact (Wire.pointsNamed_eq_nil h).symm

theorem wellFormed_chunk {es : List Entry} (h : es ≠ []) :
    (c.chunk es).WellFormed c.timestamp c.component where
  inhabited := by
    obtain ⟨e, he⟩ := List.exists_mem_of_ne_nil es h
    intro hnil
    have hpoints := c.pointsNamed_chunk es e.1
    rw [hnil] at hpoints
    exact Wire.pointsNamed_ne_nil (Wire.mem_entryNames he) hpoints.symm
  names := by
    rw [chunk, InstanceMap.ofEntries_eq, List.map_map]
    simpa [Function.comp_def, InstanceMap.instanceOf] using Wire.nodup_entryNames es
  instances d hd := by
    rw [chunk, InstanceMap.ofEntries_eq] at hd
    obtain ⟨n, hn, rfl⟩ := List.mem_map.1 hd
    exact ⟨rfl, pointsNamed es n, Wire.pointsNamed_ne_nil hn, rfl⟩

/-! ### Runs of pushes -/

/-- The answers to some pushes, and the chunker behind them. -/
def pushAll (c : Chunker) : List Entry → List (Option Chunk) × Chunker
  | [] => ([], c)
  | e :: es =>
    let step := c.push e.1 e.2
    let rest := step.2.pushAll es
    (step.1 :: rest.1, rest.2)

/-- The chunks that some pushes return, and the one that is left. -/
def chunks (c : Chunker) (es : List Entry) : List Chunk :=
  (c.pushAll es).1.reduceOption ++ (c.pushAll es).2.finish.toList

theorem pushAll_append (es fs : List Entry) : c.pushAll (es ++ fs) =
    ((c.pushAll es).1 ++ ((c.pushAll es).2.pushAll fs).1, ((c.pushAll es).2.pushAll fs).2) := by
  induction es generalizing c with
  | nil => rfl
  | cons e es ih =>
    rw [List.cons_append, pushAll, pushAll, ih]
    rfl

theorem answers_concat (es : List Entry) (e : Entry) : (c.pushAll (es ++ [e])).1 =
    (c.pushAll es).1 ++ [((c.pushAll es).2.push e.1 e.2).1] := by
  simp only [pushAll_append, pushAll]

theorem state_concat (es : List Entry) (e : Entry) :
    (c.pushAll (es ++ [e])).2 = ((c.pushAll es).2.push e.1 e.2).2 := by
  simp only [pushAll_append, pushAll]

/-- Whether some entries close their chunk. -/
def full (es : List Entry) : Bool := bytesOf es > c.threshold

/-- Whatever is open when the pushes begin, they are cut into groups, and each full group is
returned as a chunk. -/
theorem pushAll_holding (opened es : List Entry) :
    ((c.holding opened).pushAll es).1.reduceOption = (cut c.full opened es).1.map c.chunk ∧
      ((c.holding opened).pushAll es).2 = c.holding (cut c.full opened es).2 := by
  induction es generalizing opened with
  | nil => exact ⟨rfl, rfl⟩
  | cons e es ih =>
    rw [pushAll, push_holding, cut]
    by_cases hfull : bytesOf (opened ++ [e]) > c.threshold
    · have hcut : c.full (opened ++ [e]) = true := decide_eq_true hfull
      obtain ⟨hchunks, hrest⟩ := ih []
      rw [if_pos hfull, if_pos hcut]
      exact ⟨by simp only [List.reduceOption_cons_of_some, hchunks, List.map_cons], hrest⟩
    · have hcut : ¬c.full (opened ++ [e]) = true := by simpa [full] using hfull
      obtain ⟨hchunks, hrest⟩ := ih (opened ++ [e])
      rw [if_neg hfull, if_neg hcut]
      exact ⟨by simp only [List.reduceOption_cons_of_none, hchunks], hrest⟩

theorem chunks_eq (es : List Entry) :
    (c.holding []).chunks es = (groups c.full es).map c.chunk := by
  obtain ⟨hchunks, hrest⟩ := c.pushAll_holding [] es
  rw [chunks, hchunks, hrest, finish_holding, groups, List.map_append, lastGroup]
  split <;> rfl

theorem exists_of_mem_chunks {es : List Entry} {chunk : Chunk}
    (h : chunk ∈ (c.holding []).chunks es) : ∃ g, g ≠ [] ∧ chunk = c.chunk g := by
  rw [chunks_eq] at h
  obtain ⟨g, hg, rfl⟩ := List.mem_map.1 h
  exact ⟨g, ne_nil_of_mem_groups c.full es g hg, rfl⟩

theorem finish_eq_none_iff (es : List Entry) :
    ((c.holding []).pushAll es).2.finish = none ↔
      es = [] ∨ ∃ chunk, ((c.holding []).pushAll es).1.getLast? = some (some chunk) := by
  induction es using List.reverseRecOn with
  | nil => exact ⟨fun _ => .inl rfl, fun _ => rfl⟩
  | append_singleton es e _ =>
    -- The last push leaves nothing or something, whatever was open before it.
    obtain ⟨-, hstate⟩ := c.pushAll_holding [] es
    rw [answers_concat, state_concat, hstate, push_holding]
    split
    · simp [finish_holding]
    · simp [finish_holding]

/-! ### Names that are not mixed -/

end Chunker

/-- Between two entries of one name stand only entries of that name. -/
def Grouped (es : List Entry) : Prop :=
  ∀ before x between y behind, es = before ++ x :: (between ++ y :: behind) → x.1 = y.1 →
    ∀ z ∈ between, z.1 = x.1

theorem Grouped.of_infix (before behind : List Entry) {es : List Entry}
    (h : Grouped (before ++ es ++ behind)) : Grouped es := by
  intro left x between y right heq
  exact h (before ++ left) x between y (right ++ behind) (by rw [heq]; simp)

/-- A name that occurs again does so behind its other entries. -/
theorem Grouped.last_name {es : List Entry} {e : Entry} (h : Grouped (es ++ [e]))
    (hmem : e.1 ∈ entryNames es) : ∃ init x, es = init ++ [x] ∧ x.1 = e.1 := by
  obtain ⟨y, hy, hname⟩ := List.mem_map.1 (List.mem_eraseDups.1 hmem)
  obtain ⟨before, between, rfl⟩ := List.append_of_mem hy
  have hbetween := h before y between e [] (by simp) hname
  rcases List.eq_nil_or_concat between with rfl | ⟨init, x, rfl⟩
  · exact ⟨before, y, rfl, hname⟩
  · refine ⟨before ++ y :: init, x, by simp, ?_⟩
    rw [hbetween x (by simp), hname]

theorem Grouped.getLast?_entryNames {es : List Entry} (h : Grouped es) :
    (entryNames es).getLast? = es.getLast?.map (·.1) := by
  induction es using List.reverseRecOn with
  | nil => rfl
  | append_singleton es e ih =>
    rw [Wire.entryNames_append, List.getLast?_concat, Option.map_some]
    split
    · next hmem =>
      obtain ⟨init, x, rfl, hname⟩ := h.last_name hmem
      rw [List.append_nil, ih (Grouped.of_infix [] [e] h), List.getLast?_concat,
        Option.map_some, hname]
    · exact List.getLast?_concat

/-- Names that are not mixed stand in the order of their entries. -/
theorem Grouped.flatMap_filter {es : List Entry} (h : Grouped es) :
    ((entryNames es).flatMap fun n => es.filter fun e => e.1 == n) = es := by
  induction es using List.reverseRecOn with
  | nil => rfl
  | append_singleton es e ih =>
    have hes := ih (Grouped.of_infix [] [e] h)
    have hlast := h.getLast?_entryNames
    rw [List.getLast?_concat, Option.map_some, List.getLast?_eq_some_iff] at hlast
    obtain ⟨names, hnames⟩ := hlast
    -- The entries of the last name end the list, so taking the last entry off leaves the rest alone.
    have hnew : e.1 ∉ names := by
      have hnodup := Wire.nodup_entryNames (es ++ [e])
      rw [hnames] at hnodup
      simpa using (List.nodup_append.1 hnodup).2.2 e.1
    have hold : (names.flatMap fun n => es.filter fun e => e.1 == n) ++
        es.filter (fun x => x.1 == e.1) = es := by
      rw [Wire.entryNames_append] at hnames
      split at hnames
      · rw [List.append_nil] at hnames
        rw [hnames, List.flatMap_append, List.flatMap_singleton] at hes
        exact hes
      · next hmem =>
        rw [List.append_left_inj] at hnames
        have hnone : es.filter (fun x => x.1 == e.1) = [] :=
          List.map_eq_nil_iff.1 (Wire.pointsNamed_eq_nil hmem)
        rw [hnone, List.append_nil, ← hnames, hes]
    have hrest : (names.flatMap fun n => (es ++ [e]).filter fun e => e.1 == n) =
        names.flatMap fun n => es.filter fun e => e.1 == n := by
      refine List.flatMap_congr fun n hn => ?_
      have hne : e.1 ≠ n := fun heq => hnew (heq ▸ hn)
      simp [hne]
    have hown : (es ++ [e]).filter (fun x => x.1 == e.1) =
        es.filter (fun x => x.1 == e.1) ++ [e] := by simp
    rw [hnames, List.flatMap_append, List.flatMap_singleton, hrest, hown, ← List.append_assoc, hold]

theorem Chunker.entries_chunk_of_grouped (c : Chunker) {es : List Entry} (h : Grouped es) :
    (c.chunk es).entries = es := by
  rw [entries_chunk, h.flatMap_filter]

/-! ### The points of all chunks -/

/-- Chunks lose, double and reorder no point. -/
theorem Chunker.chunks_keep_points (threshold : Nat) (timestamp : Int) (component : Option String)
    (es : List Entry) :
    let c : Chunker := { threshold, timestamp, component }
    (∀ name, pointsNamed ((c.chunks es).flatMap Chunk.entries) name = pointsNamed es name) ∧
      (∀ chunk ∈ c.chunks es, chunk.WellFormed timestamp component) ∧
      (Grouped es → (c.chunks es).flatMap Chunk.entries = es) ∧
      ((c.pushAll es).2.finish = none ↔
        es = [] ∨ ∃ chunk, (c.pushAll es).1.getLast? = some (some chunk)) := by
  intro c
  have hchunks : c.chunks es = (groups c.full es).map c.chunk := c.chunks_eq es
  have hflat := flatten_groups c.full es
  refine ⟨?_, ?_, ?_, c.finish_eq_none_iff es⟩
  · intro name
    have hgroup : (fun g => pointsNamed (c.chunk g).entries name) = fun g => pointsNamed g name :=
      funext fun g => c.pointsNamed_chunk g name
    calc pointsNamed ((c.chunks es).flatMap Chunk.entries) name
      _ = (groups c.full es).flatMap fun g => pointsNamed (c.chunk g).entries name := by
        rw [hchunks, List.flatMap_map, pointsNamed_flatMap]
      _ = pointsNamed (groups c.full es).flatten name := by
        rw [hgroup, ← List.flatMap_id, pointsNamed_flatMap]
        rfl
      _ = pointsNamed es name := by rw [hflat]
  · intro chunk hchunk
    rw [hchunks] at hchunk
    obtain ⟨g, hg, rfl⟩ := List.mem_map.1 hchunk
    exact c.wellFormed_chunk (ne_nil_of_mem_groups c.full es g hg)
  · intro hgrouped
    -- A group is a run of entries, so its names are not mixed either.
    have hgroup : ∀ g ∈ groups c.full es, (c.chunk g).entries = g := by
      intro g hg
      obtain ⟨before, behind, heq⟩ := List.append_of_mem hg
      refine c.entries_chunk_of_grouped (Grouped.of_infix before.flatten behind.flatten ?_)
      rw [← hflat, heq] at hgrouped
      simpa using hgrouped
    rw [hchunks, List.flatMap_map, List.flatMap_congr hgroup]
    simpa [List.flatMap_id'] using hflat

end HostTelemetry
