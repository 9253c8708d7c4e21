import HostTelemetry.Proofs.BodySize
import HostTelemetry.Proofs.PushedChunks

/-!
# Where chunks end

A chunk ends with the first point that takes its size over the threshold, so it is too large by that
point alone, and what is left at the end is not too large at all. Sizes alone decide where chunks
end.
-/

namespace HostTelemetry

open Wire (Entry pointsNamed entryNames)

/-- The lengths of the texts of some points, in bytes. -/
def pointSizes (es : List Entry) : List Nat := es.map fun e => e.2.json.toText.utf8ByteSize

/-- What a chunker adds for a point is the length of its text. -/
theorem pointBytes_eq (p : Wire.Point) : pointBytes p = p.json.toText.utf8ByteSize := rfl

theorem pointSizes_concat (es : List Entry) (e : Entry) :
    pointSizes (es ++ [e]) = pointSizes es ++ [e.2.json.toText.utf8ByteSize] :=
  List.map_append

/-- The length of some points together, without what stands around and between them. -/
def entryBytes (es : List Entry) : Nat := (pointSizes es).sum

theorem entryBytes_concat (es : List Entry) (e : Entry) :
    entryBytes (es ++ [e]) = entryBytes es + e.2.json.toText.utf8ByteSize := by
  rw [entryBytes, pointSizes_concat, List.sum_append_nat, List.sum_singleton, entryBytes]

namespace Chunker

theorem bytesOf_eq (es : List Entry) : bytesOf es = entryBytes es := by
  induction es using List.reverseRecOn with
  | nil => rfl
  | append_singleton es e ih => rw [bytesOf_append, entryBytes_concat, ih, pointBytes_eq]

variable (c : Chunker)

theorem contentBytes_chunk (es : List Entry) :
    (c.chunk es).contentBytes = entryBytes (c.chunk es).entries := by
  have hname : ∀ n,
      ((es.filter fun e => e.1 == n).map fun e => e.2.json.toText.utf8ByteSize) =
        (pointsNamed es n).map pointBytes := by
    intro n
    rw [pointsNamed, List.map_map]
    rfl
  calc (c.chunk es).contentBytes
    _ = entryBytes es := bytesOf_eq es
    _ = ((entryNames es).map fun n => ((pointsNamed es n).map pointBytes).sum).sum :=
      (Wire.sum_pointsNamed pointBytes es).symm
    _ = entryBytes (c.chunk es).entries := by
      rw [entries_chunk, entryBytes, pointSizes, List.map_flatMap, List.flatMap_def,
        List.sum_flatten, List.map_map]
      simp only [Function.comp_def, hname]

/-! ### What is open -/

/-- Between two pushes a chunker holds points that are not too large together. -/
theorem exists_holding (es : List Entry) : ∃ opened,
    ((c.holding []).pushAll es).2 = c.holding opened ∧ entryBytes opened ≤ c.threshold := by
  induction es using List.reverseRecOn with
  | nil => exact ⟨[], rfl, Nat.zero_le _⟩
  | append_singleton es e ih =>
    obtain ⟨opened, hstate, -⟩ := ih
    rw [state_concat, hstate, push_holding, bytesOf_eq]
    split
    · exact ⟨[], rfl, Nat.zero_le _⟩
    · next h => exact ⟨opened ++ [e], rfl, Nat.le_of_not_lt h⟩

theorem length_pushAll (es : List Entry) : (c.pushAll es).1.length = es.length := by
  induction es generalizing c with
  | nil => rfl
  | cons e es ih => rw [pushAll, List.length_cons, List.length_cons, ih]

theorem getElem?_pushAll {es : List Entry} {i : Nat} {e : Entry} (h : es[i]? = some e) :
    (c.pushAll es).1[i]? = some ((c.pushAll (es.take i)).2.push e.1 e.2).1 := by
  obtain ⟨hi, rfl⟩ := List.getElem?_eq_some_iff.1 h
  have hlength : (c.pushAll (es.take i)).1.length = i := by
    rw [length_pushAll, List.length_take_of_le (Nat.le_of_lt hi)]
  have hsplit : es = es.take i ++ es[i] :: es.drop (i + 1) := by simp
  conv_lhs => rw [hsplit, pushAll_append]
  rw [List.getElem?_append_right (Nat.le_of_eq hlength), hlength, Nat.sub_self, pushAll]
  rfl

theorem push_eq_some {opened : List Entry} {e : Entry} {chunk : Chunk}
    (h : ((c.holding opened).push e.1 e.2).1 = some chunk) :
    chunk = c.chunk (opened ++ [e]) ∧ c.threshold < entryBytes (opened ++ [e]) ∧
      ((c.holding opened).push e.1 e.2).2 = c.holding [] := by
  rw [push_holding, bytesOf_eq] at h ⊢
  split at h
  · next hfull =>
    rw [if_pos hfull]
    exact ⟨(Option.some.inj h).symm, hfull, rfl⟩
  · cases h

/-! ### Ends of chunks -/

/-- Whether the push at a position returned a chunk. -/
def EndsAt (returned : List (Option Chunk)) (i : Nat) : Prop :=
  ∃ chunk, returned[i]? = some (some chunk)

/-- The size of the points from one position to another. -/
def bytesFrom (es : List Entry) (i j : Nat) : Nat := entryBytes ((es.take (j + 1)).drop i)

section Positions

variable {c : Chunker} {es : List Entry} {i j : Nat}

theorem drop_take_succ {e : Entry} (hij : i ≤ j) (he : es[j]? = some e) :
    (es.take (j + 1)).drop i = (es.take j).drop i ++ [e] := by
  have hj : j < es.length := (List.getElem?_eq_some_iff.1 he).1
  rw [List.take_add_one, he, Option.toList_some, List.drop_append_of_le_length]
  rw [List.length_take_of_le (Nat.le_of_lt hj)]
  exact hij

theorem state_of_endsAt (h : EndsAt ((c.holding []).pushAll es).1 i) :
    ((c.holding []).pushAll (es.take (i + 1))).2 = c.holding [] := by
  obtain ⟨chunk, hchunk⟩ := h
  have hi : i < es.length := by
    rw [← (c.holding []).length_pushAll es]
    exact (List.getElem?_eq_some_iff.1 hchunk).1
  have he := List.getElem?_eq_getElem hi
  obtain ⟨opened, hstate, -⟩ := c.exists_holding (es.take i)
  rw [getElem?_pushAll _ he, hstate] at hchunk
  rw [List.take_add_one, he, Option.toList_some, state_concat, hstate]
  exact (c.push_eq_some (Option.some.inj hchunk)).2.2

/-- What was pushed from the start of a chunk on is open as long as no push returns a chunk. -/
theorem state_of_not_endsAt (hij : i ≤ j) (hj : j ≤ es.length)
    (hstart : ((c.holding []).pushAll (es.take i)).2 = c.holding [])
    (hopen : ∀ m, i ≤ m → m < j → ¬EndsAt ((c.holding []).pushAll es).1 m) :
    ((c.holding []).pushAll (es.take j)).2 = c.holding ((es.take j).drop i) := by
  induction hij with
  | refl => rw [hstart, List.drop_take_self]
  | @step j hij ih =>
    have hstate := ih (Nat.le_of_lt hj) fun m him hmj => hopen m him (Nat.lt_succ_of_lt hmj)
    have he := List.getElem?_eq_getElem (Nat.lt_of_succ_le hj)
    have hnone := hopen j hij (Nat.lt_succ_self j)
    rw [EndsAt, getElem?_pushAll _ he, hstate, push_holding] at hnone
    rw [drop_take_succ hij he, List.take_add_one, he, Option.toList_some, state_concat, hstate,
      push_holding]
    split
    · next hfull =>
      rw [if_pos hfull] at hnone
      exact absurd ⟨_, rfl⟩ hnone
    · rfl

/-- A chunk ends at the first position at which its size exceeds the threshold. -/
theorem endsAt_iff (hij : i ≤ j) (hj : j < es.length)
    (hstart : ∀ m, m + 1 = i → EndsAt ((c.holding []).pushAll es).1 m)
    (hopen : ∀ m, i ≤ m → m < j → ¬EndsAt ((c.holding []).pushAll es).1 m) :
    EndsAt ((c.holding []).pushAll es).1 j ↔ c.threshold < bytesFrom es i j := by
  -- A chunk starts with nothing open: at the first push, or behind the end of another chunk.
  have hfirst : ((c.holding []).pushAll (es.take i)).2 = c.holding [] := by
    cases i with
    | zero => rfl
    | succ m => exact state_of_endsAt (hstart m rfl)
  have hstate := state_of_not_endsAt hij (Nat.le_of_lt hj) hfirst hopen
  have he := List.getElem?_eq_getElem hj
  rw [EndsAt, getElem?_pushAll _ he, hstate, push_holding, bytesFrom, drop_take_succ hij he,
    bytesOf_eq]
  split
  · next hfull => exact ⟨fun _ => hfull, fun _ => ⟨_, rfl⟩⟩
  · next hfull =>
    refine ⟨?_, fun h => absurd h hfull⟩
    rintro ⟨chunk, hchunk⟩
    cases hchunk

end Positions

/-! ### Sizes decide -/

section Sizes

variable {c d : Chunker} {opened opened' es fs : List Entry}

theorem bytesOf_eq_of_pointSizes (h : pointSizes opened' = pointSizes opened) :
    bytesOf opened' = bytesOf opened := by
  rw [bytesOf_eq, bytesOf_eq]
  exact congrArg List.sum h

theorem finish_sizes (h : pointSizes opened' = pointSizes opened) :
    (d.holding opened').finish.map Chunk.contentBytes =
      (c.holding opened).finish.map Chunk.contentBytes := by
  have hlength : opened'.length = opened.length := by
    simpa only [pointSizes, List.length_map] using congrArg List.length h
  have hempty : opened'.isEmpty = opened.isEmpty := by
    rw [Bool.eq_iff_iff, List.isEmpty_iff_length_eq_zero, List.isEmpty_iff_length_eq_zero, hlength]
  have hbytes : (d.chunk opened').contentBytes = (c.chunk opened).contentBytes :=
    bytesOf_eq_of_pointSizes h
  rw [finish_holding, finish_holding, hempty]
  split
  · rfl
  · rw [Option.map_some, Option.map_some, hbytes]

/-- Of two runs of pushes of the same sizes, each push returns chunks of the same size or none. -/
theorem pushAll_sizes (hthreshold : d.threshold = c.threshold)
    (hopened : pointSizes opened' = pointSizes opened) (hes : pointSizes fs = pointSizes es) :
    ((d.holding opened').pushAll fs).1.map (Option.map Chunk.contentBytes) =
        ((c.holding opened).pushAll es).1.map (Option.map Chunk.contentBytes) ∧
      ((d.holding opened').pushAll fs).2.finish.map Chunk.contentBytes =
        ((c.holding opened).pushAll es).2.finish.map Chunk.contentBytes := by
  induction es generalizing fs opened opened' with
  | nil =>
    obtain rfl : fs = [] := List.map_eq_nil_iff.1 hes
    exact ⟨rfl, finish_sizes hopened⟩
  | cons e es ih =>
    cases fs with
    | nil => cases hes
    | cons f fs =>
      obtain ⟨he, hes⟩ := List.cons.inj hes
      have hsize : f.2.json.toText.utf8ByteSize = e.2.json.toText.utf8ByteSize := he
      have hopen : pointSizes (opened' ++ [f]) = pointSizes (opened ++ [e]) := by
        rw [pointSizes_concat, pointSizes_concat, hopened, hsize]
      have hbytes := bytesOf_eq_of_pointSizes hopen
      rw [pushAll, pushAll, push_holding, push_holding, hbytes, hthreshold]
      split
      · have hnil : pointSizes [] = pointSizes [] := rfl
        obtain ⟨hrest, hfinish⟩ := ih hnil hes
        have hchunk : (d.chunk (opened' ++ [f])).contentBytes =
            (c.chunk (opened ++ [e])).contentBytes := hbytes
        refine ⟨?_, hfinish⟩
        rw [List.map_cons, List.map_cons, hrest, Option.map_some, Option.map_some, hchunk]
      · obtain ⟨hrest, hfinish⟩ := ih hopen hes
        refine ⟨?_, hfinish⟩
        rw [List.map_cons, List.map_cons, hrest]

end Sizes

/-! ### Greedy chunks -/

/-- Chunks that end as early as their threshold allows. -/
structure Greedy (c : Chunker) (es : List Entry) : Prop where
  content : ∀ chunk ∈ c.chunks es, chunk.contentBytes = entryBytes chunk.entries
  returned : ∀ (i : Nat) (e : Entry) (chunk : Chunk), es[i]? = some e →
    (c.pushAll es).1[i]? = some (some chunk) → c.threshold < chunk.contentBytes ∧
      e.2.json.toText.utf8ByteSize ≤ chunk.contentBytes ∧
        chunk.contentBytes - e.2.json.toText.utf8ByteSize ≤ c.threshold
  left : ∀ chunk, (c.pushAll es).2.finish = some chunk → chunk.contentBytes ≤ c.threshold
  /-- A chunk that starts at a position ends at the first one at which it is too large. -/
  earliest : ∀ i j, i ≤ j → j < es.length → (∀ m, m + 1 = i → EndsAt (c.pushAll es).1 m) →
    (∀ m, i ≤ m → m < j → ¬EndsAt (c.pushAll es).1 m) →
    (EndsAt (c.pushAll es).1 j ↔ c.threshold < bytesFrom es i j)

theorem greedy_holding (c : Chunker) (es : List Entry) : (c.holding []).Greedy es where
  content chunk hchunk := by
    obtain ⟨g, -, rfl⟩ := c.exists_of_mem_chunks hchunk
    exact c.contentBytes_chunk g
  returned i e chunk he hchunk := by
    obtain ⟨opened, hstate, hopened⟩ := c.exists_holding (es.take i)
    rw [getElem?_pushAll _ he, hstate] at hchunk
    obtain ⟨rfl, hfull, -⟩ := c.push_eq_some (Option.some.inj hchunk)
    have hbytes : (c.chunk (opened ++ [e])).contentBytes = entryBytes (opened ++ [e]) :=
      bytesOf_eq _
    rw [hbytes]
    refine ⟨hfull, ?_, ?_⟩
    · rw [entryBytes_concat]
      exact Nat.le_add_left _ _
    · rw [entryBytes_concat, Nat.add_sub_cancel]
      exact hopened
  left chunk hchunk := by
    obtain ⟨opened, hstate, hopened⟩ := c.exists_holding es
    rw [hstate, finish_holding, Option.ite_none_left_eq_some] at hchunk
    obtain ⟨-, hchunk⟩ := hchunk
    cases hchunk
    have hbytes : (c.chunk opened).contentBytes = entryBytes opened := bytesOf_eq opened
    rw [hbytes]
    exact hopened
  earliest i j hij hj hstart hopen := endsAt_iff hij hj hstart hopen

/-- Chunks end where sizes alone say, and as early as the threshold allows. -/
theorem chunks_end_early (threshold : Nat) (timestamp : Int) (component : Option String)
    (es : List Entry) :
    let c : Chunker := { threshold, timestamp, component }
    c.Greedy es ∧
      ∀ (timestamp' : Int) (component' : Option String) (fs : List Entry),
        pointSizes fs = pointSizes es →
          let d : Chunker := { threshold, timestamp := timestamp', component := component' }
          (d.pushAll fs).1.map (Option.map Chunk.contentBytes) =
              (c.pushAll es).1.map (Option.map Chunk.contentBytes) ∧
            (d.pushAll fs).2.finish.map Chunk.contentBytes =
              (c.pushAll es).2.finish.map Chunk.contentBytes := by
  intro c
  refine ⟨c.greedy_holding es, ?_⟩
  intro timestamp' component' fs hsizes d
  have hthreshold : d.threshold = c.threshold := rfl
  have hnil : pointSizes [] = pointSizes [] := rfl
  exact pushAll_sizes hthreshold hnil hsizes

def fourPushes : List Entry := [("a", ⟨"m", 1⟩), ("b", ⟨"n", 2⟩), ("a", ⟨"m", 3⟩), ("c", ⟨"k", 4⟩)]

/-- Of four points with seventeen bytes each the third takes the chunk over forty, and so it does
under any names. -/
theorem chunks_end_early_four :
    let c : Chunker := { threshold := 40, timestamp := 5, component := none }
    pointSizes fourPushes = [17, 17, 17, 17] ∧
      (∀ chunk, (c.pushAll fourPushes).1[2]? = some (some chunk) →
        40 < chunk.contentBytes ∧ chunk.contentBytes - 17 ≤ 40) ∧
      ∀ (timestamp : Int) (component : Option String) (fs : List Entry),
        pointSizes fs = [17, 17, 17, 17] →
          let d : Chunker := { threshold := 40, timestamp, component }
          (d.pushAll fs).1.map (Option.map Chunk.contentBytes) = [none, none, some 51, none] ∧
            (d.pushAll fs).2.finish.map Chunk.contentBytes = some 17 := by
  intro c
  have hsizes : pointSizes fourPushes = [17, 17, 17, 17] := by decide +kernel
  have hlength : (⟨"m", 3⟩ : Wire.Point).json.toText.utf8ByteSize = 17 := by decide +kernel
  have hreturned : (c.pushAll fourPushes).1.map (Option.map Chunk.contentBytes) =
      [none, none, some 51, none] := by decide +kernel
  have hfinish : (c.pushAll fourPushes).2.finish.map Chunk.contentBytes = some 17 := by
    decide +kernel
  obtain ⟨hgreedy, hsame⟩ := chunks_end_early 40 5 none fourPushes
  refine ⟨hsizes, fun chunk hchunk => ?_, fun timestamp component fs hfs => ?_⟩
  · obtain ⟨hover, -, htight⟩ := hgreedy.returned 2 ("a", ⟨"m", 3⟩) chunk rfl hchunk
    rw [hlength] at htight
    exact ⟨hover, htight⟩
  · rw [← hreturned, ← hfinish]
    exact hsame timestamp component fs (hfs.trans hsizes.symm)

end Chunker

end HostTelemetry
