import HostTelemetry.Proofs.MissingFields

/-!
# Sums over members

In a family with members every matched member contributes one row for each metric whose fields are
there. The contributions to one instance and metric end up as one row, in the place of the first of
them and with their sum from left to right, so that a member without some metric still counts in the
others.
-/

namespace HostTelemetry

/-! ### Sums of one series -/

/-- The sum of some numbers from left to right, nothing being added to the first one. -/
def leftSum : List Float → Float
  | [] => 0.0
  | x :: rest => rest.foldl (· + ·) x

/-- Rows that add up contributions: one for each series, in the order of first contribution. -/
structure SumsOf (contributions rows : List Row) : Prop where
  series : rows.map Row.series = (contributions.map Row.series).eraseDups
  value : ∀ row ∈ rows,
    row.value = leftSum ((contributions.filter (·.series == row.series)).map (·.value))

theorem foldl_addRow_of_series {first : Row} {rest : List Row}
    (h : ∀ row ∈ rest, row.series = first.series) :
    rest.foldl addRow [first] =
      [{ first with value := (rest.map (·.value)).foldl (· + ·) first.value }] := by
  induction rest generalizing first with
  | nil => rfl
  | cons row rest ih =>
    have hsame : first.sameSeries row = true :=
      (first.sameSeries_iff row).2 (h row List.mem_cons_self).symm
    have hrest : ∀ r ∈ rest, r.series = first.series := fun r hr =>
      h r (List.mem_cons_of_mem row hr)
    rw [List.foldl_cons, addRow, if_pos hsame]
    exact @ih { first with value := first.value + row.value } hrest

/-- Rows of a single series add up to one row. -/
theorem sumSeries_of_series {rows : List Row} {series : String × String} (hne : rows ≠ [])
    (h : ∀ row ∈ rows, row.series = series) :
    sumSeries rows = [⟨series.1, series.2, leftSum (rows.map (·.value))⟩] := by
  cases rows with
  | nil => exact absurd rfl hne
  | cons first rest =>
    have hfirst : first.series = series := h first List.mem_cons_self
    have hrest : ∀ row ∈ rest, row.series = first.series := fun row hrow =>
      (h row (List.mem_cons_of_mem first hrow)).trans hfirst.symm
    rw [sumSeries, List.foldl_cons, ← hfirst]
    exact foldl_addRow_of_series hrest

theorem sumsOf_sumSeries (rows : List Row) : SumsOf rows (sumSeries rows) where
  series := series_sumSeries rows
  value := by
    intro row hrow
    -- The row is in the part of the sums that is of its own series.
    have hpart := filter_sumSeries (· == row.series) rows
    have hmem : row ∈ sumSeries (rows.filter (·.series == row.series)) := by
      rw [← hpart]
      exact List.mem_filter.2 ⟨hrow, beq_self_eq_true row.series⟩
    have hne : rows.filter (·.series == row.series) ≠ [] := by
      intro hnil
      rw [hnil] at hmem
      cases hmem
    have hsum := sumSeries_of_series hne fun r hr => beq_iff_eq.1 (List.mem_filter.1 hr).2
    rw [hsum] at hmem
    exact congrArg Row.value (List.mem_singleton.1 hmem)

/-! ### Members -/

namespace FamilySpec

variable (spec : FamilySpec)

theorem sumsOf_mergeMembers (hmember : spec.memberField.isSome = true) (rows : List Row) :
    SumsOf rows (spec.mergeMembers rows) := by
  rw [mergeMembers, if_pos hmember]
  exact sumsOf_sumSeries rows

/-- One row for each metric that a snapshot has a value of, the snapshots that are not excluded being
walked in order. -/
def walk (value? : Snapshot → Derivation → Option Float) (read : List Snapshot) : List Row :=
  (read.filter fun s => !spec.excludes s.instanceName).flatMap fun s =>
    spec.metrics.filterMap fun m =>
      (value? s m.derivation).map fun v => ⟨s.instanceName, m.name, v * m.factor⟩

theorem contributions_eq_walk (value? : Snapshot → Derivation → Option Float)
    (read : List Snapshot) : spec.contributions value? read = spec.walk value? read := by
  induction read with
  | nil => rfl
  | cons s rest ih =>
    unfold contributions walk at ih ⊢
    rw [List.flatMap_cons, ih, List.filter_cons]
    cases spec.excludes s.instanceName <;> rfl

theorem matched?_eq_some_iff (before : List Snapshot) (window : Duration) (s : Snapshot)
    (d : Derivation) (v : Float) :
    spec.matched? before window s d = some v ↔
      ∃ p, spec.Matches before s p ∧ d.twice? p s window = some v := by
  rw [matched?, Option.bind_eq_some_iff]
  exact exists_congr fun p => and_congr_left fun _ => spec.previous?_eq_some_iff

/-- The rows of a family with members are the sums of what its members contribute. The last read is
walked in order; a member of two reads has a value of a metric if it is matched and both it and its
match have the fields that the metric needs of them, whatever other fields they lack. -/
theorem members_summed_once (hmember : spec.memberField.isSome = true)
    (before after : List Snapshot) (window : Duration) :
    SumsOf (spec.walk (spec.matched? before window) after)
      (deriveCumulative spec before after window) ∧
    SumsOf (spec.walk (fun s d => d.once? s) after) (deriveInstantaneous spec after) ∧
    (∀ s d v, spec.matched? before window s d = some v ↔
      ∃ p, spec.Matches before s p ∧ d.twice? p s window = some v) ∧
    (∀ (d : Derivation) p s, (d.twice? p s window).isSome = true ↔ ∀ field ∈ d.fields,
      (s.field? field).isSome = true ∧ (d.isGauge = true ∨ (p.field? field).isSome = true)) ∧
    (∀ (d : Derivation) s, (d.once? s).isSome = true ↔
      d.isGauge = true ∧ ∀ field ∈ d.fields, (s.field? field).isSome = true) := by
  refine ⟨?_, ?_, spec.matched?_eq_some_iff before window, ?_, ?_⟩
  · rw [deriveCumulative_eq, contributions_eq_walk]
    exact spec.sumsOf_mergeMembers hmember _
  · rw [deriveInstantaneous_eq, contributions_eq_walk]
    exact spec.sumsOf_mergeMembers hmember _
  · intro d p s
    simp [d.isSome_twice? p s window]
  · intro d s
    simp [d.isSome_once? s]

theorem members_summed_once_processes :
    processSpec.memberField.isSome = true ∧
      SumsOf [⟨"nginx", "Process CPU Usage %", 25⟩, ⟨"nginx", "Process CPU Usage %", 100⟩,
          ⟨"nginx", "Process Memory Used MB", 2⟩]
        (deriveCumulative processSpec processesBefore processesAfter (.ofSeconds 2)) := by
  have hwalk : processSpec.walk (processSpec.matched? processesBefore (.ofSeconds 2))
      processesAfter = [⟨"nginx", "Process CPU Usage %", 25⟩, ⟨"nginx", "Process CPU Usage %", 100⟩,
        ⟨"nginx", "Process Memory Used MB", 2⟩] := by
    decide +kernel
  have hsums := (processSpec.members_summed_once rfl processesBefore processesAfter
    (.ofSeconds 2)).1
  rw [hwalk] at hsums
  exact ⟨rfl, hsums⟩

end FamilySpec

end HostTelemetry
