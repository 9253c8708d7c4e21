import HostTelemetry.Counter.Derive
import HostTelemetry.Proofs.FirstOccurrences
import Mathlib.Data.List.Basic
import Mathlib.Data.List.Find

/-!
# The rows of a family

Every row of a family stands under the instance of one of the snapshots and the name of one of the
metrics. The rows of one snapshot depend on nothing but that snapshot and, in a family read twice, on
the one it is matched with; both have the same instance. Whatever is kept or left out by the name of
the instance or of the metric can therefore be kept or left out before the derivation or behind it.
-/

namespace HostTelemetry

/-- What a row is published under. -/
def Row.series (r : Row) : String × String := (r.instanceName, r.metric)

theorem Row.sameSeries_iff (a b : Row) : a.sameSeries b = true ↔ a.series = b.series := by
  simp [sameSeries, series]

/-! ### Sums of series -/

theorem series_addRow (rows : List Row) (row : Row) :
    (addRow rows row).map Row.series =
      if row.series ∈ rows.map Row.series then rows.map Row.series
      else rows.map Row.series ++ [row.series] := by
  induction rows with
  | nil => rfl
  | cons r rest ih =>
    rw [addRow]
    by_cases h : r.series = row.series
    · rw [if_pos ((r.sameSeries_iff row).2 h), List.map_cons, List.map_cons,
        if_pos (by rw [← h]; exact List.mem_cons_self)]
      rfl
    · rw [if_neg (fun hs => h ((r.sameSeries_iff row).1 hs)), List.map_cons, List.map_cons, ih]
      by_cases hmem : row.series ∈ rest.map Row.series
      · rw [if_pos hmem, if_pos (List.mem_cons_of_mem _ hmem)]
      · have hcons : row.series ∉ r.series :: rest.map Row.series := by
          rw [List.mem_cons, not_or]
          exact ⟨fun heq => h heq.symm, hmem⟩
        rw [if_neg hmem, if_neg hcons, List.cons_append]

theorem sumSeries_append_singleton (rows : List Row) (row : Row) :
    sumSeries (rows ++ [row]) = addRow (sumSeries rows) row := List.foldl_concat ..

theorem series_sumSeries (rows : List Row) :
    (sumSeries rows).map Row.series = (rows.map Row.series).eraseDups := by
  induction rows using List.reverseRecOn with
  | nil => rfl
  | append_singleton rows row ih =>
    rw [sumSeries_append_singleton, series_addRow, ih, List.map_append, List.map_singleton,
      eraseDups_concat]
    by_cases h : row.series ∈ rows.map Row.series
    · rw [if_pos (List.mem_eraseDups.2 h), if_pos h, List.append_nil]
    · rw [if_neg (mt List.mem_eraseDups.1 h), if_neg h]

theorem mem_series_sumSeries (rows : List Row) (series : String × String) :
    series ∈ (sumSeries rows).map Row.series ↔ series ∈ rows.map Row.series := by
  rw [series_sumSeries, List.mem_eraseDups]

/-- However many rows of one series there are, their sum is one row. -/
theorem nodup_series_sumSeries (rows : List Row) : ((sumSeries rows).map Row.series).Nodup := by
  rw [series_sumSeries]
  exact nodup_eraseDups _

theorem filter_addRow (p : String × String → Bool) (rows : List Row) (row : Row) :
    (addRow rows row).filter (p ·.series) =
      if p row.series then addRow (rows.filter (p ·.series)) row
      else rows.filter (p ·.series) := by
  induction rows with
  | nil => cases hp : p row.series <;> simp [addRow, hp]
  | cons r rest ih =>
    rw [addRow]
    by_cases h : r.sameSeries row = true
    · -- The sum is of the series of its summands, so all are kept or left out together.
      have hseries : r.series = row.series := (r.sameSeries_iff row).1 h
      have hsum : ({ r with value := r.value + row.value } : Row).series = row.series := hseries
      rw [if_pos h, List.filter_cons, List.filter_cons, hsum, hseries]
      cases hp : p row.series <;> simp [addRow, h]
    · rw [if_neg h, List.filter_cons, List.filter_cons, ih]
      cases hr : p r.series <;> cases hp : p row.series <;> simp [addRow, h]

/-- What is left out by its series can be left out before the sums or behind them. -/
theorem filter_sumSeries (p : String × String → Bool) (rows : List Row) :
    (sumSeries rows).filter (p ·.series) = sumSeries (rows.filter (p ·.series)) := by
  induction rows using List.reverseRecOn with
  | nil => rfl
  | append_singleton rows row ih =>
    rw [sumSeries_append_singleton, filter_addRow, ih, List.filter_append, List.filter_cons,
      List.filter_nil]
    split
    · rw [sumSeries_append_singleton]
    · rw [List.append_nil]

/-! ### What the snapshots contribute -/

def keepSnapshots (keep : String → Bool) (snapshots : List Snapshot) : List Snapshot :=
  snapshots.filter fun s => keep s.instanceName

def keepRows (keep : String → Bool) (rows : List Row) : List Row :=
  rows.filter fun r => keep r.instanceName

namespace FamilySpec

variable (spec : FamilySpec)

/-- The rows of snapshots, `value?` giving each of them its metrics. -/
def contributions (value? : Snapshot → Derivation → Option Float) (snapshots : List Snapshot) :
    List Row :=
  snapshots.flatMap fun s =>
    if spec.excludes s.instanceName then [] else spec.rowsOf s.instanceName (value? s)

/-- A metric of a snapshot that is matched with the one before it. -/
def matched? (before : List Snapshot) (window : Duration) (s : Snapshot) (d : Derivation) :
    Option Float :=
  (spec.previous? before s).bind fun p => d.twice? p s window

theorem contributionsTwice_eq (before after : List Snapshot) (window : Duration) :
    spec.contributionsTwice before after window =
      spec.contributions (spec.matched? before window) after := by
  refine List.flatMap_congr ?_
  intro s _
  split
  · rfl
  · unfold matched?
    cases spec.previous? before s with
    | none => simp [rowsOf]
    | some p => rfl

theorem deriveInstantaneous_eq (snapshots : List Snapshot) :
    deriveInstantaneous spec snapshots =
      spec.mergeMembers (spec.contributions (fun s d => d.once? s) snapshots) := rfl

theorem deriveCumulative_eq (before after : List Snapshot) (window : Duration) :
    deriveCumulative spec before after window =
      spec.mergeMembers (spec.contributions (spec.matched? before window) after) := by
  rw [deriveCumulative, contributionsTwice_eq]

theorem mem_rowsOf {instanceName : String} {value? : Derivation → Option Float} {row : Row} :
    row ∈ spec.rowsOf instanceName value? ↔ ∃ m ∈ spec.metrics, ∃ v, value? m.derivation = some v ∧
      row = ⟨instanceName, m.name, v * m.factor⟩ := by
  rw [rowsOf, List.mem_filterMap]
  refine exists_congr fun m => and_congr_right fun _ => ?_
  rw [Option.map_eq_some_iff]
  exact exists_congr fun v => and_congr_right fun _ => eq_comm

theorem mem_contributions {value? : Snapshot → Derivation → Option Float}
    {snapshots : List Snapshot} {row : Row} (h : row ∈ spec.contributions value? snapshots) :
    ∃ s ∈ snapshots, ∃ m ∈ spec.metrics, ∃ v, value? s m.derivation = some v ∧
      row = ⟨s.instanceName, m.name, v * m.factor⟩ := by
  obtain ⟨s, hs, hrow⟩ := List.mem_flatMap.1 h
  split at hrow
  · cases hrow
  · exact ⟨s, hs, spec.mem_rowsOf.1 hrow⟩

theorem series_rowsOf (instanceName : String) (value? : Derivation → Option Float) :
    (spec.rowsOf instanceName value?).map Row.series =
      ((spec.metrics.filter fun m => (value? m.derivation).isSome).map (·.name)).map
        (instanceName, ·) := by
  rw [rowsOf, List.map_filterMap, List.map_map, ← List.filterMap_eq_map, List.filterMap_filter]
  refine List.filterMap_congr ?_
  intro m _
  cases value? m.derivation <;> rfl

/-- A family of one metric has one row for each snapshot that gives this metric a value. -/
theorem series_contributions_of_single {m : Metric} (hmetrics : spec.metrics = [m])
    (hall : ∀ name, spec.excludes name = false)
    (value? : Snapshot → Derivation → Option Float) (snapshots : List Snapshot) :
    (spec.contributions value? snapshots).map Row.series =
      (snapshots.filter fun s => (value? s m.derivation).isSome).map fun s =>
        (s.instanceName, m.name) := by
  unfold contributions
  rw [List.map_flatMap]
  induction snapshots with
  | nil => rfl
  | cons s rest ih =>
    have hfirst : (if spec.excludes s.instanceName then []
        else spec.rowsOf s.instanceName (value? s)).map Row.series =
          if (value? s m.derivation).isSome then [(s.instanceName, m.name)] else [] := by
      rw [hall, if_neg Bool.false_ne_true, series_rowsOf, hmetrics]
      cases hvalue : (value? s m.derivation).isSome <;> simp [hvalue]
    rw [List.flatMap_cons, List.filter_cons, hfirst, ih]
    cases hvalue : (value? s m.derivation).isSome <;> simp

/-- Snapshots of different instances have no series in common. -/
theorem nodup_series_contributions (hmetrics : (spec.metrics.map (·.name)).Nodup)
    (value? : Snapshot → Derivation → Option Float) {snapshots : List Snapshot}
    (hnames : (snapshots.map (·.instanceName)).Nodup) :
    ((spec.contributions value? snapshots).map Row.series).Nodup := by
  have hinstance : ∀ (s : Snapshot) (series : String × String),
      series ∈ ((if spec.excludes s.instanceName then [] else
        spec.rowsOf s.instanceName (value? s)).map Row.series) → series.1 = s.instanceName := by
    intro s series hmem
    split at hmem
    · cases hmem
    · rw [series_rowsOf] at hmem
      obtain ⟨name, -, rfl⟩ := List.mem_map.1 hmem
      rfl
  rw [contributions, List.map_flatMap, List.nodup_flatMap]
  refine ⟨?_, ?_⟩
  · intro s _
    split
    · exact List.nodup_nil
    · rw [series_rowsOf]
      refine List.Nodup.map (fun _ _ h => congrArg Prod.snd h) ?_
      exact (List.filter_sublist.map _).nodup hmetrics
  · refine (List.pairwise_map.1 hnames).imp ?_
    intro s t hne series hs ht
    exact hne ((hinstance s series hs).symm.trans (hinstance t series ht))

/-! ### Parts of the rows and parts of the snapshots -/

variable {value? value?' : Snapshot → Derivation → Option Float} {snapshots : List Snapshot}

theorem contributions_congr
    (h : ∀ s ∈ snapshots, spec.excludes s.instanceName = false → ∀ d, value? s d = value?' s d) :
    spec.contributions value? snapshots = spec.contributions value?' snapshots := by
  refine List.flatMap_congr ?_
  intro s hs
  cases hexcluded : spec.excludes s.instanceName with
  | true => rfl
  | false =>
    show spec.rowsOf s.instanceName (value? s) = spec.rowsOf s.instanceName (value?' s)
    rw [funext (h s hs hexcluded)]

/-- A snapshot that is left out is one whose metrics have no value. -/
theorem contributions_filter (keep : Snapshot → Bool) :
    spec.contributions value? (snapshots.filter keep) =
      spec.contributions (fun s d => if keep s then value? s d else none) snapshots := by
  have hnone (name : String) : spec.rowsOf name (fun _ => none) = [] :=
    List.filterMap_eq_nil_iff.2 fun _ _ => rfl
  induction snapshots with
  | nil => rfl
  | cons s rest ih =>
    unfold contributions at ih ⊢
    rw [List.filter_cons, List.flatMap_cons, ← ih]
    cases hkeep : keep s with
    | true => simp [hkeep]
    | false => simp [hkeep, hnone]

theorem contributions_map {edit : Snapshot → Snapshot}
    (h : ∀ s, (edit s).instanceName = s.instanceName) :
    spec.contributions value? (snapshots.map edit) =
      spec.contributions (fun s => value? (edit s)) snapshots := by
  rw [contributions, List.flatMap_map]
  refine List.flatMap_congr ?_
  intro s _
  rw [h]

theorem filter_rowsOf {instanceName : String} {of? : Derivation → Option Float} {q : Row → Bool}
    {p : Derivation → Bool}
    (h : ∀ m ∈ spec.metrics, ∀ v, q ⟨instanceName, m.name, v⟩ = p m.derivation) :
    (spec.rowsOf instanceName of?).filter q =
      spec.rowsOf instanceName (fun d => if p d then of? d else none) := by
  rw [rowsOf, List.filter_filterMap, rowsOf]
  refine List.filterMap_congr ?_
  intro m hm
  cases hv : of? m.derivation with
  | none => simp
  | some v => cases hp : p m.derivation <;> simp [h m hm, hp]

/-- A row that is left out by its instance and its metric is a metric without a value. -/
theorem filter_contributions {q : Row → Bool} {p : Snapshot → Derivation → Bool}
    (h : ∀ s ∈ snapshots, ∀ m ∈ spec.metrics, ∀ v,
      q ⟨s.instanceName, m.name, v⟩ = p s m.derivation) :
    (spec.contributions value? snapshots).filter q =
      spec.contributions (fun s d => if p s d then value? s d else none) snapshots := by
  rw [contributions, List.filter_flatMap]
  refine List.flatMap_congr ?_
  intro s hs
  cases spec.excludes s.instanceName with
  | true => rfl
  | false => exact spec.filter_rowsOf (h s hs)

theorem filter_mergeMembers (p : String × String → Bool) (rows : List Row) :
    (spec.mergeMembers rows).filter (p ·.series) = spec.mergeMembers (rows.filter (p ·.series)) := by
  unfold mergeMembers
  split
  · exact filter_sumSeries p rows
  · rfl

/-- Whether metrics of a name are derived in a way that is asked for. -/
def derives (p : Derivation → Bool) (metric : String) : Bool :=
  spec.metrics.any fun m => m.name == metric && p m.derivation

theorem derives_name (hmetrics : (spec.metrics.map (·.name)).Nodup) (p : Derivation → Bool)
    {m : Metric} (hm : m ∈ spec.metrics) : spec.derives p m.name = p m.derivation := by
  rw [derives, Bool.eq_iff_iff, List.any_eq_true]
  constructor
  · rintro ⟨n, hn, hp⟩
    rw [Bool.and_eq_true, beq_iff_eq] at hp
    rw [← List.inj_on_of_nodup_map hmetrics hn hm hp.1]
    exact hp.2
  · intro hp
    exact ⟨m, hm, by rw [beq_self_eq_true, hp]; rfl⟩

/-! ### Matches -/

theorem memberKey_instance {s t : Snapshot} (h : spec.memberKey s = spec.memberKey t) :
    s.instanceName = t.instanceName := congrArg Prod.fst h

theorem memberKey_of_previous? {before : List Snapshot} {s p : Snapshot}
    (h : spec.previous? before s = some p) : spec.memberKey p = spec.memberKey s := by
  have hkey := List.find?_some h
  exact of_decide_eq_true hkey

/-- Snapshots of other keys play no part in a match. -/
theorem previous?_filter {keep : Snapshot → Bool} {before : List Snapshot} {s : Snapshot}
    (h : ∀ t ∈ before, spec.memberKey t = spec.memberKey s → keep t = true) :
    spec.previous? (before.filter keep) s = spec.previous? before s := by
  rw [previous?, ← List.filter_reverse, List.find?_filter, previous?]
  refine List.find?_congr ?_
  intro t ht
  by_cases hkey : spec.memberKey t = spec.memberKey s
  · simp [hkey, h t (List.mem_reverse.1 ht) hkey]
  · simp [hkey]

/-! ### Properties of values -/

/-- What holds of a value holds in some form of the row behind the unit factor, and in some form of
the sum of rows of one series. -/
structure Carries (value row sum : Float → Prop) : Prop where
  scale : ∀ m ∈ spec.metrics, ∀ x, value x → row (x * m.factor)
  single : ∀ x, row x → sum x
  add : ∀ x y, sum x → row y → sum (x + y)

namespace Carries

variable {spec} {value row sum : Float → Prop} (h : spec.Carries value row sum)

include h

theorem addRow {rows : List Row} {r : Row} (hrows : ∀ s ∈ rows, sum s.value) (hr : row r.value) :
    ∀ s ∈ addRow rows r, sum s.value := by
  induction rows with
  | nil =>
    intro s hs
    rw [List.mem_singleton.1 hs]
    exact h.single _ hr
  | cons s rest ih =>
    rw [List.forall_mem_cons] at hrows
    rw [HostTelemetry.addRow]
    split
    · rw [List.forall_mem_cons]
      exact ⟨h.add _ _ hrows.1 hr, hrows.2⟩
    · rw [List.forall_mem_cons]
      exact ⟨hrows.1, ih hrows.2⟩

theorem mergeMembers {rows : List Row} (hrows : ∀ r ∈ rows, row r.value) :
    ∀ r ∈ spec.mergeMembers rows, sum r.value := by
  unfold FamilySpec.mergeMembers
  split
  · unfold sumSeries
    refine List.foldlRecOn rows HostTelemetry.addRow
      (motive := fun sums => ∀ r ∈ sums, sum r.value) ?_ fun sums hsums r hr => ?_
    · intro r hr
      cases hr
    · exact h.addRow hsums (hrows r hr)
  · exact fun r hr => h.single _ (hrows r hr)

theorem contributions {value? : Snapshot → Derivation → Option Float} {snapshots : List Snapshot}
    (hvalue : ∀ s ∈ snapshots, ∀ d x, value? s d = some x → value x) :
    ∀ r ∈ spec.contributions value? snapshots, row r.value := by
  intro r hr
  obtain ⟨s, hs, m, hm, x, hx, rfl⟩ := spec.mem_contributions hr
  exact h.scale m hm x (hvalue s hs m.derivation x hx)

theorem instantaneous (snapshots : List Snapshot)
    (honce : ∀ s ∈ snapshots, ∀ (d : Derivation) x, d.once? s = some x → value x) :
    ∀ r ∈ deriveInstantaneous spec snapshots, sum r.value := by
  rw [deriveInstantaneous_eq]
  exact h.mergeMembers (h.contributions honce)

theorem cumulative (before after : List Snapshot) (window : Duration)
    (htwice : ∀ p ∈ before, ∀ s ∈ after, ∀ (d : Derivation) x,
      d.twice? p s window = some x → value x) :
    ∀ r ∈ deriveCumulative spec before after window, sum r.value := by
  rw [deriveCumulative_eq]
  refine h.mergeMembers (h.contributions fun s hs d x hx => ?_)
  obtain ⟨p, hp, hx⟩ := Option.bind_eq_some_iff.1 hx
  have hmem : p ∈ before := List.mem_reverse.1 (List.mem_of_find?_eq_some hp)
  exact htwice p hmem s hs d x hx

end Carries

/-! ### Rows by the name of their instance -/

theorem keepRows_contributions (keep : String → Bool) :
    keepRows keep (spec.contributions value? snapshots) =
      spec.contributions value? (keepSnapshots keep snapshots) := by
  rw [keepSnapshots, contributions_filter, keepRows]
  exact spec.filter_contributions fun _ _ _ _ _ => rfl

theorem keepRows_mergeMembers (keep : String → Bool) (rows : List Row) :
    keepRows keep (spec.mergeMembers rows) = spec.mergeMembers (keepRows keep rows) :=
  spec.filter_mergeMembers (keep ·.1) rows

/-- A snapshot is matched with one of its own instance. -/
theorem previous?_keepSnapshots (keep : String → Bool) (before : List Snapshot) {s : Snapshot}
    (hs : keep s.instanceName = true) :
    spec.previous? (keepSnapshots keep before) s = spec.previous? before s := by
  refine spec.previous?_filter ?_
  intro t _ hkey
  rwa [spec.memberKey_instance hkey]

theorem keepRows_deriveInstantaneous (keep : String → Bool) (snapshots : List Snapshot) :
    keepRows keep (deriveInstantaneous spec snapshots) =
      deriveInstantaneous spec (keepSnapshots keep snapshots) := by
  rw [deriveInstantaneous_eq, keepRows_mergeMembers, keepRows_contributions,
    deriveInstantaneous_eq]

theorem keepRows_deriveCumulative (keep : String → Bool) (before after : List Snapshot)
    (window : Duration) :
    keepRows keep (deriveCumulative spec before after window) =
      deriveCumulative spec (keepSnapshots keep before) (keepSnapshots keep after) window := by
  have hsame : ∀ s ∈ keepSnapshots keep after,
      spec.matched? (keepSnapshots keep before) window s = spec.matched? before window s := by
    intro s hs
    unfold matched?
    rw [spec.previous?_keepSnapshots keep before (List.mem_filter.1 hs).2]
  rw [deriveCumulative_eq, keepRows_mergeMembers, keepRows_contributions, deriveCumulative_eq]
  congr 1
  refine spec.contributions_congr ?_
  intro s hs _ d
  rw [hsame s hs]

end FamilySpec

end HostTelemetry
