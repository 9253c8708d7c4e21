import HostTelemetry.Proofs.ChunkSizes

/-!
# Larger thresholds

Two chunkers cut the same pushes into chunks that drift apart, as each chunk starts where the one
before it ended. The one with the larger threshold stays ahead all the same: its chunks are not more,
and each ends where the other's chunk of that number ends, or later.
-/

namespace HostTelemetry

open Wire (Entry pointsNamed)

/-! ### Groups that end later -/

section Groups

variable {α : Type}

/-- The second groups are not more than the first, and the elements up to the end of one of them are
not fewer than those up to the end of the first group of its number. -/
structure EndLater (gs gs' : List (List α)) : Prop where
  length_le : gs'.length ≤ gs.length
  held_le : ∀ n ≤ gs'.length, (gs.take n).flatten.length ≤ (gs'.take n).flatten.length

theorem length_flatten_take_le (gs : List (List α)) (n : Nat) :
    (gs.take n).flatten.length ≤ gs.flatten.length := by
  conv_rhs => rw [← List.take_append_drop n gs, List.flatten_append, List.length_append]
  exact Nat.le_add_right _ _

theorem take_length_flatten (gs : List (List α)) (n : Nat) :
    gs.flatten.take (gs.take n).flatten.length = (gs.take n).flatten := by
  conv_lhs =>
    arg 2
    rw [← List.take_append_drop n gs, List.flatten_append]
  exact List.take_left

namespace EndLater

variable {gs gs' : List (List α)}

theorem nil : EndLater ([] : List (List α)) [] where
  length_le := Nat.le_refl _
  held_le n _ := by simp

theorem extend (h : EndLater gs gs') (more : List (List α)) : EndLater (gs ++ more) gs' where
  length_le := by
    rw [List.length_append]
    exact Nat.le_add_right_of_le h.length_le
  held_le n hn := by
    rw [List.take_append_of_le_length (Nat.le_trans hn h.length_le)]
    exact h.held_le n hn

/-- A further group of the second run ends behind everything that the first run has closed. -/
theorem snoc (h : EndLater gs gs') {g : List α} (hlt : gs'.length < gs.length)
    (hheld : gs.flatten.length ≤ (gs' ++ [g]).flatten.length) : EndLater gs (gs' ++ [g]) where
  length_le := by
    rw [List.length_append]
    exact hlt
  held_le n hn := by
    rcases Nat.lt_or_ge gs'.length n with hlast | hold
    · have hall : (gs' ++ [g]).take n = gs' ++ [g] :=
        List.take_of_length_le (by simpa using Nat.succ_le_of_lt hlast)
      rw [hall]
      exact Nat.le_trans (length_flatten_take_le gs n) hheld
    · rw [List.take_append_of_le_length hold]
      exact h.held_le n hold

end EndLater

/-- Two runs over the same elements, each with its closed groups and what is open: the second closes
later, and where both have closed equally many groups it has no more open than the first. -/
structure Trails (p p' : List (List α) × List α) : Prop where
  closed : EndLater p.1 p'.1
  opened : p.1.length = p'.1.length → p'.2 <:+ p.2

def seen (p : List (List α) × List α) : Nat := p.1.flatten.length + p.2.length

/-- The closed groups and what is open behind a further element. -/
def close (full : List α → Bool) (p : List (List α) × List α) (a : α) :
    List (List α) × List α :=
  if full (p.2 ++ [a]) then (p.1 ++ [p.2 ++ [a]], []) else (p.1, p.2 ++ [a])

theorem length_flatten_concat (gs : List (List α)) (g : List α) :
    (gs ++ [g]).flatten.length = gs.flatten.length + g.length := by
  rw [List.flatten_concat, List.length_append]

theorem lastGroup_of_ne_nil {opened : List α} (h : opened ≠ []) : lastGroup opened = [opened] := by
  rw [lastGroup, if_neg (by simpa using h)]

variable {full full' : List α → Bool} {p p' : List (List α) × List α}

theorem cut_concat (l : List α) (a : α) :
    cut full [] (l ++ [a]) = close full (cut full [] l) a := by
  rw [cut_append, cut, close]
  split
  · rfl
  · rw [cut, List.append_nil]

theorem seen_cut (l : List α) : seen (cut full [] l) = l.length := by
  rw [seen, ← List.length_append, flatten_cut, List.nil_append]

/-- What fills a group of the second run fills every group of the first that ends with it. -/
def FillsLater (full full' : List α → Bool) : Prop :=
  ∀ g h, g <:+ h → full' g = true → full h = true

theorem Trails.close (h : Trails p p') (hfull : FillsLater full full') (hseen : seen p' = seen p)
    (a : α) : Trails (close full p a) (close full' p' a) := by
  have hlength := h.closed.length_le
  -- Both runs have seen the same elements, so a group that closes now ends behind all the others.
  have hheld : p.1.flatten.length ≤ (p'.1 ++ [p'.2 ++ [a]]).flatten.length ∧
      (p.1 ++ [p.2 ++ [a]]).flatten.length ≤ (p'.1 ++ [p'.2 ++ [a]]).flatten.length := by
    simp only [seen] at hseen
    simp only [length_flatten_concat, List.length_append, List.length_singleton]
    omega
  unfold HostTelemetry.close
  by_cases hp : full (p.2 ++ [a]) = true <;> by_cases hp' : full' (p'.2 ++ [a]) = true
  · rw [if_pos hp, if_pos hp']
    have hlt : p'.1.length < (p.1 ++ [p.2 ++ [a]]).length := by
      rw [List.length_append]
      exact Nat.lt_succ_of_le hlength
    exact ⟨(h.closed.extend _).snoc hlt hheld.2, fun _ => List.nil_suffix⟩
  · rw [if_pos hp, if_neg hp']
    refine ⟨h.closed.extend _, fun heq => ?_⟩
    simp only [List.length_append, List.length_singleton] at heq
    omega
  · rw [if_neg hp, if_pos hp']
    -- Were as many groups closed in both runs, the first would close its own now.
    have hlt : p'.1.length < p.1.length := by
      refine Nat.lt_of_le_of_ne hlength fun heq => hp ?_
      exact hfull _ _ (List.suffix_append_self_iff.2 (h.opened heq.symm)) hp'
    exact ⟨h.closed.snoc hlt hheld.1, fun _ => List.nil_suffix⟩
  · rw [if_neg hp, if_neg hp']
    exact ⟨h.closed, fun heq => List.suffix_append_self_iff.2 (h.opened heq)⟩

theorem trails_cut (hfull : FillsLater full full') (l : List α) :
    Trails (cut full [] l) (cut full' [] l) := by
  induction l using List.reverseRecOn with
  | nil => exact ⟨.nil, fun _ => List.nil_suffix⟩
  | append_singleton l a ih =>
    rw [cut_concat, cut_concat]
    exact ih.close hfull ((seen_cut l).trans (seen_cut l).symm) a

/-- What is open in the second run at the end makes no group that the first run lacks. -/
theorem Trails.finish (h : Trails p p') (hseen : seen p' = seen p) :
    EndLater (p.1 ++ lastGroup p.2) (p'.1 ++ lastGroup p'.2) := by
  have hfirst := h.closed.extend (lastGroup p.2)
  by_cases hempty : p'.2 = []
  · rw [hempty]
    simpa [lastGroup] using hfirst
  · rw [lastGroup_of_ne_nil hempty]
    refine hfirst.snoc ?_ ?_
    · rcases Nat.lt_or_eq_of_le h.closed.length_le with hlt | heq
      · rw [List.length_append]
        exact Nat.lt_add_right _ hlt
      · have hne : p.2 ≠ [] := fun hnil => hempty (List.suffix_nil.1 (hnil ▸ h.opened heq.symm))
        rw [lastGroup_of_ne_nil hne, List.length_append, heq]
        exact Nat.lt_succ_self _
    · rw [List.flatten_append, flatten_lastGroup, List.length_append, length_flatten_concat]
      exact Nat.le_of_eq hseen.symm

theorem endLater_groups (hfull : FillsLater full full') (l : List α) :
    EndLater (groups full l) (groups full' l) :=
  (trails_cut hfull l).finish ((seen_cut l).trans (seen_cut l).symm)

end Groups

/-! ### Chunks that end later -/

theorem entryBytes_le_of_suffix {es fs : List Entry} (h : es <:+ fs) :
    entryBytes es ≤ entryBytes fs := by
  obtain ⟨before, rfl⟩ := h
  have happend : pointSizes (before ++ es) = pointSizes before ++ pointSizes es := List.map_append
  rw [entryBytes, entryBytes, happend, List.sum_append_nat]
  exact Nat.le_add_left _ _

namespace Chunker

/-- Where a chunk ends: how many points the chunks up to it hold. -/
def endOf (c : Chunker) (es : List Entry) (j : Nat) : Nat :=
  (((c.chunks es).take (j + 1)).map Chunk.pointCount).sum

/-- The chunks up to any of them hold the points that are pushed before its end, and no others. -/
def Tiles (c : Chunker) (es : List Entry) : Prop :=
  ∀ j name, pointsNamed (((c.chunks es).take (j + 1)).flatMap Chunk.entries) name =
    pointsNamed (es.take (c.endOf es j)) name

variable (c : Chunker)

theorem endOf_holding (es : List Entry) (j : Nat) :
    (c.holding []).endOf es j = ((groups c.full es).take (j + 1)).flatten.length := by
  rw [endOf, chunks_eq, ← List.map_take, List.map_map, List.length_flatten]
  congr 1
  refine List.map_congr_left fun g _ => ?_
  exact c.pointCount_chunk g

theorem pointsNamed_chunks (gs : List (List Entry)) (name : String) :
    pointsNamed ((gs.map c.chunk).flatMap Chunk.entries) name = pointsNamed gs.flatten name := by
  rw [List.flatMap_map, pointsNamed_flatMap, ← List.flatMap_id, pointsNamed_flatMap]
  exact List.flatMap_congr fun g _ => c.pointsNamed_chunk g name

theorem tiles_holding (es : List Entry) : (c.holding []).Tiles es := by
  intro j name
  have hbefore := take_length_flatten (groups c.full es) (j + 1)
  rw [flatten_groups] at hbefore
  rw [endOf_holding, hbefore, chunks_eq, ← List.map_take, pointsNamed_chunks]

theorem fillsLater_of_threshold_le {c d : Chunker} (h : c.threshold ≤ d.threshold) :
    FillsLater c.full d.full := by
  intro g g' hsuffix hfull
  simp only [full, bytesOf_eq, decide_eq_true_eq] at hfull ⊢
  exact Nat.lt_of_le_of_lt h (Nat.lt_of_lt_of_le hfull (entryBytes_le_of_suffix hsuffix))

/-- A larger threshold makes no more chunks, and each chunk ends where the chunk of its number under
the smaller threshold ends, or later. -/
theorem larger_threshold_ends_later {threshold threshold' : Nat} (h : threshold ≤ threshold')
    (timestamp : Int) (component : Option String) (es : List Entry) :
    let c : Chunker := { threshold, timestamp, component }
    let d : Chunker := { threshold := threshold', timestamp, component }
    (d.chunks es).length ≤ (c.chunks es).length ∧
      (∀ j, j < (d.chunks es).length → c.endOf es j ≤ d.endOf es j) ∧
      c.Tiles es ∧ d.Tiles es := by
  intro c d
  have hc : c.chunks es = (groups c.full es).map c.chunk := c.chunks_eq es
  have hd : d.chunks es = (groups d.full es).map d.chunk := d.chunks_eq es
  have hlater : EndLater (groups c.full es) (groups d.full es) :=
    endLater_groups (fillsLater_of_threshold_le h) es
  refine ⟨?_, ?_, c.tiles_holding es, d.tiles_holding es⟩
  · rw [hc, hd, List.length_map, List.length_map]
    exact hlater.length_le
  · intro j hj
    rw [hd, List.length_map] at hj
    have hends := hlater.held_le (j + 1) hj
    rwa [← c.endOf_holding, ← d.endOf_holding] at hends

def fivePushes : List Entry :=
  [("a", ⟨"m", 1⟩), ("b", ⟨"m", 1⟩), ("a", ⟨"m", 2⟩), ("b", ⟨"m", 2⟩), ("a", ⟨"m", 3⟩)]

/-- Of chunks of two and of three points, the second ones end with the fourth and the fifth. -/
theorem larger_threshold_ends_later_drifting :
    let c : Chunker := { threshold := 20, timestamp := 5, component := none }
    let d : Chunker := { threshold := 40, timestamp := 5, component := none }
    20 ≤ 40 ∧ (d.chunks fivePushes).length = 2 ∧ 2 ≤ (c.chunks fivePushes).length ∧
      c.endOf fivePushes 1 = 4 ∧ 4 ≤ d.endOf fivePushes 1 := by
  intro c d
  have hle : 20 ≤ 40 := by decide
  have hlength : (d.chunks fivePushes).length = 2 := by decide +kernel
  have hend : c.endOf fivePushes 1 = 4 := by decide +kernel
  obtain ⟨hfewer, hlater, -, -⟩ := larger_threshold_ends_later hle 5 none fivePushes
  have hsecond := hlater 1 (by rw [hlength]; decide)
  exact ⟨hle, hlength, hlength ▸ hfewer, hend, hend ▸ hsecond⟩

end Chunker

end HostTelemetry
