import HostTelemetry.Proofs.DerivedRows

/-!
# Matched reads

A family read twice is derived from the snapshots of the second read that the first one matches. A
snapshot of either read whose key the other lacks is as good as not there, and so is one of an
instance that is left out; where in the first read a match stands makes no difference if its keys are
distinct. Gauges take nothing from the first read but which snapshots count, so they are the rows of
a single read of the matched ones.
-/

namespace HostTelemetry

/-- Whether a metric is taken from a single read. -/
def Derivation.isGauge : Derivation → Bool
  | gauge _ | gaugeRatio _ _ => true
  | rate _ | deltaRatio _ _ => false

theorem Derivation.twice?_of_isGauge {d : Derivation} (h : d.isGauge = true)
    (before after : Snapshot) (window : Duration) : d.twice? before after window = d.once? after := by
  cases d with
  | gauge field => rfl
  | gaugeRatio numerator denominator => rfl
  | rate field => cases h
  | deltaRatio numerator denominator => cases h

theorem Derivation.once?_of_not_isGauge {d : Derivation} (h : d.isGauge = false) (s : Snapshot) :
    d.once? s = none := by
  cases d with
  | gauge field => cases h
  | gaugeRatio numerator denominator => cases h
  | rate field => rfl
  | deltaRatio numerator denominator => rfl

namespace FamilySpec

variable (spec : FamilySpec)

/-! ### Which snapshots match -/

/-- Whether a read has a snapshot of the same key. -/
def hasMatch (read : List Snapshot) (s : Snapshot) : Bool :=
  read.any fun t => spec.memberKey t = spec.memberKey s

theorem hasMatch_of_mem {read : List Snapshot} {s t : Snapshot} (ht : t ∈ read)
    (h : spec.memberKey t = spec.memberKey s) : spec.hasMatch read s = true :=
  List.any_eq_true.2 ⟨t, ht, decide_eq_true h⟩

theorem isSome_previous? (before : List Snapshot) (s : Snapshot) :
    (spec.previous? before s).isSome = spec.hasMatch before s := by
  rw [previous?, List.isSome_find?, List.any_reverse, hasMatch]

theorem matched?_of_not_hasMatch {before : List Snapshot} {s : Snapshot}
    (h : spec.hasMatch before s = false) (window : Duration) (d : Derivation) :
    spec.matched? before window s d = none := by
  rw [← isSome_previous?, Option.isSome_eq_false_iff, Option.isNone_iff_eq_none] at h
  rw [matched?, h]
  rfl

/-- The snapshot of the first read that one of the second is matched with, the last of its key. -/
def Matches (before : List Snapshot) (s p : Snapshot) : Prop :=
  ∃ earlier later, before = earlier ++ p :: later ∧ spec.memberKey p = spec.memberKey s ∧
    ∀ q ∈ later, spec.memberKey q ≠ spec.memberKey s

theorem previous?_eq_some_iff {before : List Snapshot} {s p : Snapshot} :
    spec.previous? before s = some p ↔ spec.Matches before s p := by
  rw [previous?, List.find?_eq_some_iff_append]
  constructor
  · rintro ⟨hkey, later, earlier, hsplit, hlater⟩
    refine ⟨earlier.reverse, later.reverse, ?_, of_decide_eq_true hkey, ?_⟩
    · rw [← before.reverse_reverse, hsplit]
      simp
    · intro q hq
      simpa using hlater q (List.mem_reverse.1 hq)
  · rintro ⟨earlier, later, rfl, hkey, hlater⟩
    refine ⟨decide_eq_true hkey, later.reverse, earlier.reverse, by simp, ?_⟩
    intro q hq
    simpa using hlater q (List.mem_reverse.1 hq)

/-- Of distinct keys one at most is that of a snapshot, wherever it stands. -/
theorem previous?_perm {before reordered : List Snapshot} (hp : reordered.Perm before)
    (h : (before.map spec.memberKey).Nodup) (s : Snapshot) :
    spec.previous? reordered s = spec.previous? before s := by
  refine List.find?_eq_find?_of_perm
    ((List.reverse_perm reordered).trans (hp.trans (List.reverse_perm before).symm)) ?_
  rintro t ⟨ht, hkt⟩ u ⟨hu, hku⟩
  have hmem {v : Snapshot} (hv : v ∈ reordered.reverse) : v ∈ before :=
    hp.mem_iff.1 (List.mem_reverse.1 hv)
  exact List.inj_on_of_nodup_map h (hmem ht) (hmem hu)
    ((of_decide_eq_true hkt).trans (of_decide_eq_true hku).symm)

/-! ### What is invisible -/

/-- Snapshots may be removed from both reads, if only those of instances that are not left out stay
wherever the other read has their key. -/
theorem deriveCumulative_filter (keepBefore keepAfter : Snapshot → Bool)
    {before after : List Snapshot} (window : Duration)
    (hbefore : ∀ p ∈ before, spec.excludes p.instanceName = false →
      spec.hasMatch after p = true → keepBefore p = true)
    (hafter : ∀ s ∈ after, spec.excludes s.instanceName = false →
      spec.hasMatch before s = true → keepAfter s = true) :
    deriveCumulative spec (before.filter keepBefore) (after.filter keepAfter) window =
      deriveCumulative spec before after window := by
  rw [deriveCumulative_eq, contributions_filter, deriveCumulative_eq]
  congr 1
  refine spec.contributions_congr ?_
  intro s hs hincluded d
  cases hkeep : keepAfter s with
  | false =>
    have hmatch : spec.hasMatch before s = false := by
      rw [Bool.eq_false_iff]
      intro hmatch
      rw [hafter s hs hincluded hmatch] at hkeep
      cases hkeep
    rw [spec.matched?_of_not_hasMatch hmatch]
    rfl
  | true =>
    have hprevious : spec.previous? (before.filter keepBefore) s = spec.previous? before s := by
      refine spec.previous?_filter ?_
      intro p hp hkey
      refine hbefore p hp ?_ (spec.hasMatch_of_mem hs hkey.symm)
      rw [spec.memberKey_instance hkey]
      exact hincluded
    rw [if_pos rfl, matched?, hprevious, matched?]

/-- Removing from either read or from both what the other has no key of, or from both whatever is of
an excluded instance, leaves the rows as they are, and so does any other order of a first read whose
keys are distinct. -/
theorem cumulative_ignores_unmatched (before after : List Snapshot) (window : Duration) :
    let rows := deriveCumulative spec before after window
    deriveCumulative spec (before.filter (spec.hasMatch after)) after window = rows ∧
    deriveCumulative spec before (after.filter (spec.hasMatch before)) window = rows ∧
    deriveCumulative spec (before.filter (spec.hasMatch after))
      (after.filter (spec.hasMatch before)) window = rows ∧
    deriveCumulative spec (before.filter fun p => !spec.excludes p.instanceName)
      (after.filter fun s => !spec.excludes s.instanceName) window = rows ∧
    ∀ reordered, (before.map spec.memberKey).Nodup → reordered.Perm before →
      deriveCumulative spec reordered after window = rows := by
  intro rows
  refine ⟨?_, ?_, ?_, ?_, ?_⟩
  · have h : deriveCumulative spec _ (after.filter fun _ => true) window = rows :=
      spec.deriveCumulative_filter (spec.hasMatch after) _ window (fun _ _ _ h => h)
        fun _ _ _ _ => rfl
    rwa [List.filter_true] at h
  · have h : deriveCumulative spec (before.filter fun _ => true) _ window = rows :=
      spec.deriveCumulative_filter _ (spec.hasMatch before) window (fun _ _ _ _ => rfl)
        fun _ _ _ h => h
    rwa [List.filter_true] at h
  · exact spec.deriveCumulative_filter _ _ window (fun _ _ _ h => h) fun _ _ _ h => h
  · exact spec.deriveCumulative_filter _ _ window (fun p _ h _ => by rw [h]; rfl)
      fun s _ h _ => by rw [h]; rfl
  · intro reordered hkeys hp
    show deriveCumulative spec reordered after window = deriveCumulative spec before after window
    rw [deriveCumulative_eq, deriveCumulative_eq]
    congr 1
    refine spec.contributions_congr ?_
    intro s _ _ d
    rw [matched?, spec.previous?_perm hp hkeys, matched?]

/-- A process that exits, one that gives its number to another, and one that has no size any more. -/
def processesBefore : List Snapshot :=
  [⟨"nginx", .ofNumbers [("pid", 10), ("cpu_ticks", 10000), ("rss_bytes", 1048576)]⟩,
    ⟨"nginx", .ofNumbers [("pid", 11), ("cpu_ticks", 100), ("rss_bytes", 1048576)]⟩,
    ⟨"nginx", .ofNumbers [("pid", 12), ("cpu_ticks", 40), ("rss_bytes", 1048576)]⟩,
    ⟨"bash", .ofNumbers [("pid", 20), ("cpu_ticks", 500)]⟩]

def processesAfter : List Snapshot :=
  [⟨"nginx", .ofNumbers [("pid", 12), ("cpu_ticks", 90)]⟩,
    ⟨"python", .ofNumbers [("pid", 20), ("cpu_ticks", 10)]⟩,
    ⟨"nginx", .ofNumbers [("pid", 11), ("cpu_ticks", 300), ("rss_bytes", 2097152)]⟩,
    ⟨"nginx", .ofNumbers [("pid", 14), ("cpu_ticks", 5000), ("rss_bytes", 1048576)]⟩]

theorem cumulative_ignores_unmatched_processes :
    (processesBefore.map processSpec.memberKey).Nodup ∧
      processesBefore.reverse.Perm processesBefore ∧
      deriveCumulative processSpec processesBefore.reverse processesAfter (.ofSeconds 2) =
        [⟨"nginx", "Process CPU Usage %", 125⟩, ⟨"nginx", "Process Memory Used MB", 2⟩] := by
  have hkeys : (processesBefore.map processSpec.memberKey).Nodup := by decide +kernel
  have hrows : deriveCumulative processSpec processesBefore processesAfter (.ofSeconds 2) =
      [⟨"nginx", "Process CPU Usage %", 125⟩, ⟨"nginx", "Process Memory Used MB", 2⟩] := by
    decide +kernel
  obtain ⟨-, -, -, -, hreordered⟩ :=
    processSpec.cumulative_ignores_unmatched processesBefore processesAfter (.ofSeconds 2)
  have hp := List.reverse_perm processesBefore
  exact ⟨hkeys, hp, (hreordered _ hkeys hp).trans hrows⟩

/-! ### Gauges -/

/-- The gauges of two reads are those of a single read, the second one without the snapshots that
the first does not match. -/
theorem cumulative_gauges_agree (hmetrics : (spec.metrics.map (·.name)).Nodup)
    (before after : List Snapshot) (window : Duration) :
    (deriveCumulative spec before after window).filter
        (fun row => spec.derives Derivation.isGauge row.metric) =
      deriveInstantaneous spec (after.filter (spec.hasMatch before)) := by
  have hgauge : ∀ s ∈ after, ∀ m ∈ spec.metrics, ∀ v : Float,
      spec.derives Derivation.isGauge (Row.mk s.instanceName m.name v).metric =
        m.derivation.isGauge := fun _ _ m hm _ => spec.derives_name hmetrics _ hm
  have hmerge := spec.filter_mergeMembers (fun series => spec.derives Derivation.isGauge series.2)
  rw [deriveCumulative_eq, deriveInstantaneous_eq, contributions_filter]
  refine (hmerge _).trans ?_
  congr 1
  refine (spec.filter_contributions hgauge).trans (spec.contributions_congr ?_)
  intro s _ _ d
  cases hmatch : spec.hasMatch before s with
  | false => simp [spec.matched?_of_not_hasMatch hmatch]
  | true =>
    rw [← isSome_previous?] at hmatch
    obtain ⟨p, hp⟩ := Option.isSome_iff_exists.1 hmatch
    cases hd : d.isGauge with
    | true => simp [matched?, hp, d.twice?_of_isGauge hd]
    | false => simp [d.once?_of_not_isGauge hd]

theorem cumulative_gauges_agree_processes :
    (processSpec.metrics.map (·.name)).Nodup ∧
      (deriveCumulative processSpec processesBefore processesAfter (.ofSeconds 2)).filter
          (fun row => processSpec.derives Derivation.isGauge row.metric) =
        [⟨"nginx", "Process Memory Used MB", 2⟩] := by
  have hmetrics : (processSpec.metrics.map (·.name)).Nodup := by decide
  have hsingle : deriveInstantaneous processSpec
      (processesAfter.filter (processSpec.hasMatch processesBefore)) =
        [⟨"nginx", "Process Memory Used MB", 2⟩] := by
    decide +kernel
  exact ⟨hmetrics, (processSpec.cumulative_gauges_agree hmetrics processesBefore processesAfter
    (.ofSeconds 2)).trans hsingle⟩

end FamilySpec

end HostTelemetry
