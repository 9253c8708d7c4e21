import HostTelemetry.Proofs.DerivedRows
import HostTelemetry.Proofs.SamplingPass
import Mathlib.Data.List.Pairwise

/-!
# One row for each series

The rows of a pass differ in their instance or in their metric. Several families publish under one
instance, and a process may bear the name of a disk, so that this rests on the catalog: no two of its
metrics have one name. Within a family without members the source keeps the instances apart, and in
one with members the rows of a series are summed.
-/

namespace HostTelemetry

/-! ### The catalog -/

theorem nodup_catalog_metrics :
    (catalog.flatMap fun spec => spec.metrics.map (·.name)).Nodup := by
  decide

theorem FamilySpec.nodup_metrics {spec : FamilySpec} (h : spec ∈ catalog) :
    (spec.metrics.map (·.name)).Nodup :=
  (List.nodup_flatMap.1 nodup_catalog_metrics).1 spec h

theorem FamilySpec.disjoint_metrics {a b : FamilySpec} (ha : a ∈ catalog) (hb : b ∈ catalog)
    (hne : a ≠ b) : (a.metrics.map (·.name)).Disjoint (b.metrics.map (·.name)) := by
  have : Std.Symm (Function.onFun List.Disjoint fun spec : FamilySpec => spec.metrics.map (·.name)) :=
    ⟨fun _ _ h => List.disjoint_symm h⟩
  exact (List.nodup_flatMap.1 nodup_catalog_metrics).2.forall ha hb hne

theorem FamilySpec.spec_family {spec : FamilySpec} (h : spec ∈ catalog) :
    spec.family.spec = spec := by
  simp only [catalog, List.mem_cons, List.not_mem_nil, or_false] at h
  rcases h with rfl | rfl | rfl | rfl | rfl | rfl | rfl <;> rfl

theorem nodup_catalog : catalog.Nodup :=
  List.Nodup.of_map FamilySpec.family (by decide)

/-! ### The rows of a family -/

theorem FamilySpec.nodup_series_mergeMembers {spec : FamilySpec} {rows : List Row}
    (h : spec.memberField = none → (rows.map Row.series).Nodup) :
    ((spec.mergeMembers rows).map Row.series).Nodup := by
  unfold mergeMembers
  cases hm : spec.memberField with
  | none => exact h hm
  | some field => exact nodup_series_sumSeries rows

theorem FamilySpec.metric_mem_of_mergeMembers {spec : FamilySpec}
    {value? : Snapshot → Derivation → Option Float} {snapshots : List Snapshot}
    {series : String × String}
    (h : series ∈ (spec.mergeMembers (spec.contributions value? snapshots)).map Row.series) :
    series.2 ∈ spec.metrics.map (·.name) := by
  have hmem : series ∈ (spec.contributions value? snapshots).map Row.series := by
    unfold mergeMembers at h
    split at h
    · exact (mem_series_sumSeries _ _).1 h
    · exact h
  obtain ⟨row, hrow, rfl⟩ := List.mem_map.1 hmem
  obtain ⟨s, -, m, hm, v, -, rfl⟩ := spec.mem_contributions hrow
  exact List.mem_map_of_mem hm

/-- The snapshots of the last read, from which the rows follow. -/
def Visit.last? : Visit → Option (List Snapshot)
  | once _ answer | twice _ _ answer => answer.toOption
  | lost _ _ => none

/-- The rows of a family are those of its last snapshots, as a list of sums if it has members. -/
theorem Visit.exists_contributions {v : Visit} {window : Duration} {rows : FamilyRows}
    (h : v.rows? window = some rows) :
    ∃ value? snapshots, v.last? = some snapshots ∧
      rows.rows = v.spec.mergeMembers (v.spec.contributions value? snapshots) := by
  cases v with
  | once spec answer =>
    cases answer with
    | error e => cases h
    | ok snapshots =>
      cases h
      exact ⟨_, snapshots, rfl, rfl⟩
  | lost spec e => cases h
  | twice spec before answer =>
    cases answer with
    | error e => cases h
    | ok after =>
      cases h
      exact ⟨spec.matched? before window, after, rfl, spec.deriveCumulative_eq before after window⟩

/-- A source that names every instance once, in the families that have no members. -/
def CounterSource.NamesInstancesOnce (source : CounterSource) : Prop :=
  ∀ earlier r snapshots, r.family.spec.memberField = none →
    (source.read earlier r).result = .ok snapshots → (snapshots.map (·.instanceName)).Nodup

theorem Visit.nodup_series {v : Visit} {window : Duration} {rows : FamilyRows}
    (hcatalog : v.spec ∈ catalog) (hlast : ∀ snapshots, v.last? = some snapshots →
      v.spec.memberField = none → (snapshots.map (·.instanceName)).Nodup)
    (h : v.rows? window = some rows) : (rows.rows.map Row.series).Nodup := by
  obtain ⟨value?, snapshots, hsnapshots, hrows⟩ := v.exists_contributions h
  rw [hrows]
  refine FamilySpec.nodup_series_mergeMembers ?_
  intro hmember
  exact v.spec.nodup_series_contributions (FamilySpec.nodup_metrics hcatalog) value?
    (hlast snapshots hsnapshots hmember)

/-- Families of the catalog have no series in common. -/
theorem Visit.disjoint_series {v v' : Visit} {window : Duration} {rows rows' : FamilyRows}
    (hv : v.spec ∈ catalog) (hv' : v'.spec ∈ catalog) (hne : v.spec ≠ v'.spec)
    (h : v.rows? window = some rows) (h' : v'.rows? window = some rows') :
    (rows.rows.map Row.series).Disjoint (rows'.rows.map Row.series) := by
  obtain ⟨value?, snapshots, -, hrows⟩ := v.exists_contributions h
  obtain ⟨value?', snapshots', -, hrows'⟩ := v'.exists_contributions h'
  intro series hs hs'
  rw [hrows] at hs
  rw [hrows'] at hs'
  exact FamilySpec.disjoint_metrics hv hv' hne (FamilySpec.metric_mem_of_mergeMembers hs)
    (FamilySpec.metric_mem_of_mergeMembers hs')

/-! ### The rows of a pass -/

theorem nodup_series_visits {window : Duration} {visits : List Visit}
    (hcatalog : ∀ v ∈ visits, v.spec ∈ catalog) (hdistinct : (visits.map Visit.spec).Nodup)
    (hlast : ∀ v ∈ visits, ∀ snapshots, v.last? = some snapshots →
      v.spec.memberField = none → (snapshots.map (·.instanceName)).Nodup) :
    (((visits.filterMap (Visit.rows? window)).flatMap (·.rows)).map Row.series).Nodup := by
  rw [List.map_flatMap, List.nodup_flatMap]
  refine ⟨?_, ?_⟩
  · intro rows hrows
    obtain ⟨v, hv, hsome⟩ := List.mem_filterMap.1 hrows
    exact v.nodup_series (hcatalog v hv) (hlast v hv) hsome
  · rw [List.pairwise_filterMap]
    refine (List.pairwise_map.1 hdistinct).imp_of_mem ?_
    intro v v' hv hv' hne rows hrows rows' hrows'
    exact Visit.disjoint_series (hcatalog v hv) (hcatalog v' hv') hne hrows hrows'

theorem CounterSource.mem_of_scripted_ok
    {answers : Family → List (Except SourceError (List Snapshot))} {supports : Family → Bool}
    {earlier : List Read} {r : Read} {snapshots : List Snapshot}
    (h : ((scripted answers supports).read earlier r).result = .ok snapshots) :
    .ok snapshots ∈ answers r.family := by
  simp only [scripted] at h
  split at h
  · next answer hsome =>
    rw [← show answer = .ok snapshots from h]
    rcases Option.or_eq_some_iff.1 hsome with hat | ⟨-, hlast⟩
    · exact List.mem_of_getElem? hat
    · exact List.mem_of_getLast? hlast
  · cases h

namespace Sampling

variable {β : Type} (s : Sampling)

theorem exists_lookup_of_last {v : Visit} {snapshots : List Snapshot}
    (h : v.last? = some snapshots) : s.lastLookup? v = some (s.readOf v.spec, .ok snapshots) := by
  cases v with
  | once spec answer => cases answer <;> cases h; rfl
  | lost spec e => cases h
  | twice spec before answer => cases answer <;> cases h; rfl

/-- A pass over different families of the catalog publishes no instance and metric twice, whatever
its source answers, if only it names every instance of a family without members once. -/
theorem sample_publishes_series_once (w : Surroundings) (sc : Scene β) {given : List FamilySpec}
    (hs : Built w.source s given) (hcatalog : given ⊆ catalog) (hdistinct : given.Nodup)
    (hsource : w.source.NamesInstancesOnce) :
    s.sample.Meets w sc fun r _ _ =>
      (∃ sampled, r = .ok sampled ∧ ((sampled.flatMap (·.rows)).map Row.series).Nodup) ∨
        r = .error .stopped ∧ ∃ p, w.stops p = true := by
  obtain ⟨visits, hvisits⟩ := s.exists_schedule hs sc.progress.reads
  have hmap : visits.map Visit.spec = s.families := by
    rw [hvisits.specs, hs.families_eq]
    rfl
  have hmem : ∀ v ∈ visits, v.spec ∈ catalog := by
    intro v hv
    have hspec : v.spec ∈ given.filter fun spec => w.source.supports spec.family := by
      rw [← hvisits.specs]
      exact List.mem_map_of_mem hv
    exact hcatalog (List.mem_filter.1 hspec).1
  have hnodup : (visits.map Visit.spec).Nodup := by
    rw [hvisits.specs]
    exact hdistinct.filter _
  refine (s.sample_course visits hmap hvisits.cadence hvisits.answered).mono ?_
  intro r es _ hcourse
  cases hcourse with
  | finished =>
    refine .inl ⟨_, rfl, nodup_series_visits hmem hnodup ?_⟩
    intro v hv snapshots hlast hmember
    have hlookup : (s.readOf v.spec, .ok snapshots) ∈ s.firstLookups visits ++ s.lastLookups visits :=
      List.mem_append_right _ (List.mem_filterMap.2 ⟨v, hv, s.exists_lookup_of_last hlast⟩)
    obtain ⟨before, hread⟩ := hvisits.answered.exists_read hlookup
    refine hsource before (s.readOf v.spec) snapshots ?_ hread
    show v.spec.family.spec.memberField = none
    rwa [FamilySpec.spec_family (hmem v hv)]
  | stopped _ hstop => exact .inr ⟨rfl, hstop⟩

/-- A disk and two processes, all of one name. -/
def namesakeAnswers : Family → List (Except SourceError (List Snapshot))
  | .disk => [.ok [⟨"sda", .ofNumbers [("reads", 5), ("in_progress", 1)]⟩]]
  | .process => [.ok [⟨"sda", .ofNumbers [("pid", 7), ("rss_bytes", 4096)]⟩,
      ⟨"init", .ofNumbers [("pid", 1), ("rss_bytes", 512)]⟩,
      ⟨"sda", .ofNumbers [("pid", 8), ("rss_bytes", 1024)]⟩]]
  | _ => [.ok []]

def namesakes : Surroundings where
  source := .scripted namesakeAnswers fun _ => true

theorem namesakes_namesInstancesOnce : namesakes.source.NamesInstancesOnce := by
  intro earlier r snapshots hmember hread
  have hmem : .ok snapshots ∈ namesakeAnswers r.family := CounterSource.mem_of_scripted_ok hread
  cases hf : r.family <;> rw [hf] at hmember hmem
  case process => cases hmember
  all_goals
    cases List.mem_singleton.1 hmem
    decide

theorem sample_publishes_series_once_namesakes :
    ∃ sampled, ((Sampling.new namesakes.source .zero false).sample namesakes partialScene).result =
      .ok sampled ∧ sampled.map (·.rows.length) = [0, 0, 2, 0, 2, 0, 0] ∧
        ((sampled.flatMap (·.rows)).map Row.series).Nodup := by
  have hlengths : ((Sampling.new namesakes.source .zero false).sample namesakes
      partialScene).result.map (·.map (·.rows.length)) = .ok [0, 0, 2, 0, 2, 0, 0] := by
    decide +kernel
  have hmeets := (Sampling.new namesakes.source .zero false).sample_publishes_series_once namesakes
    partialScene (.new .zero false) (List.Subset.refl catalog) nodup_catalog
    namesakes_namesInstancesOnce
  obtain ⟨sampled, hr, hnodup⟩ | ⟨-, p, hp⟩ := hmeets
  · rw [hr] at hlengths
    exact ⟨sampled, hr, Except.ok.inj hlengths, hnodup⟩
  · cases hp

end Sampling

end HostTelemetry
