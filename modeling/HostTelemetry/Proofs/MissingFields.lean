import HostTelemetry.Proofs.MatchedReads

/-!
# Missing fields

A metric needs the fields that it is derived from: a gauge in the last read, an increase in both. A
snapshot without one of them loses these metrics of its instance and nothing else, and no missing
field passes for a zero.
-/

namespace HostTelemetry

/-! ### Quotients and increases -/

/-- A quotient of what may be missing. -/
def ratio? (numerator denominator : Option Float) : Option Float := do
  let n ← numerator
  let d ← denominator
  some (ratio n d)

theorem isSome_ratio? (numerator denominator : Option Float) :
    (ratio? numerator denominator).isSome = (numerator.isSome && denominator.isSome) := by
  cases numerator <;> cases denominator <;> rfl

theorem ratio?_missing {a b : Prop} [Decidable a] [Decidable b]
    (numerator denominator : Option Float) :
    ratio? (if a then none else numerator) (if b then none else denominator) =
      if a ∨ b then none else ratio? numerator denominator := by
  by_cases ha : a
  · simp [ratio?, ha]
  · by_cases hb : b
    · cases numerator <;> simp [ratio?, ha, hb]
    · simp [ha, hb]

theorem isSome_increase? (before after : Snapshot) (field : String) :
    (increase? before after field).isSome =
      ((after.field? field).isSome && (before.field? field).isSome) := by
  unfold increase?
  cases before.field? field <;> cases after.field? field <;> rfl

/-! ### The fields of a derivation -/

namespace Derivation

def fields : Derivation → List String
  | gauge field | rate field => [field]
  | deltaRatio numerator denominator | gaugeRatio numerator denominator => [numerator, denominator]

def reads (d : Derivation) (field : String) : Bool := d.fields.contains field

theorem once?_gaugeRatio (numerator denominator : String) (s : Snapshot) :
    (gaugeRatio numerator denominator).once? s =
      ratio? (s.field? numerator) (s.field? denominator) := rfl

theorem twice?_rate (field : String) (before after : Snapshot) (window : Duration) :
    (rate field).twice? before after window = (increase? before after field).map fun increase =>
      if window.inSeconds > 0.0 then increase / window.inSeconds else 0.0 := by
  cases h : increase? before after field <;> simp [twice?, h]

theorem twice?_deltaRatio (numerator denominator : String) (before after : Snapshot)
    (window : Duration) :
    (deltaRatio numerator denominator).twice? before after window =
      ratio? (increase? before after numerator) (increase? before after denominator) := rfl

theorem isSome_once? (d : Derivation) (s : Snapshot) :
    (d.once? s).isSome = (d.isGauge && d.fields.all fun field => (s.field? field).isSome) := by
  cases d with
  | gauge field => simp [once?, isGauge, fields]
  | gaugeRatio numerator denominator =>
    rw [once?_gaugeRatio, isSome_ratio?]
    simp [isGauge, fields]
  | rate field => rfl
  | deltaRatio numerator denominator => rfl

theorem isSome_twice? (d : Derivation) (before after : Snapshot) (window : Duration) :
    (d.twice? before after window).isSome = d.fields.all fun field =>
      (after.field? field).isSome && (d.isGauge || (before.field? field).isSome) := by
  cases d with
  | gauge field => simp [twice?, isSome_once?, isGauge, fields]
  | gaugeRatio numerator denominator => simp [twice?, isSome_once?, isGauge, fields]
  | rate field =>
    rw [twice?_rate, Option.isSome_map, isSome_increase?]
    simp [isGauge, fields]
  | deltaRatio numerator denominator =>
    rw [twice?_deltaRatio, isSome_ratio?, isSome_increase?, isSome_increase?]
    simp [isGauge, fields]

end Derivation

/-! ### A snapshot that lacks a field -/

namespace Snapshot

def without (s : Snapshot) (field : String) : Snapshot := { s with fields := s.fields.erase field }

theorem field?_without (s : Snapshot) (field other : String) :
    (s.without field).field? other = if field = other then none else s.field? other := by
  show ((s.fields.erase field).get? other).map _ = _
  rw [Fields.get?_erase]
  split <;> rfl

end Snapshot

theorem increase?_without_after (before after : Snapshot) (field other : String) :
    increase? before (after.without field) other =
      if field = other then none else increase? before after other := by
  unfold increase?
  rw [after.field?_without]
  split
  · cases before.field? other <;> rfl
  · rfl

theorem increase?_without_before (before after : Snapshot) (field other : String) :
    increase? (before.without field) after other =
      if field = other then none else increase? before after other := by
  unfold increase?
  rw [before.field?_without]
  split <;> rfl

namespace Derivation

theorem once?_without (d : Derivation) (s : Snapshot) (field : String) :
    d.once? (s.without field) = if d.isGauge && d.reads field then none else d.once? s := by
  cases d with
  | gauge other => simp [once?, isGauge, reads, fields, s.field?_without]
  | gaugeRatio numerator denominator =>
    rw [once?_gaugeRatio, s.field?_without, s.field?_without, ratio?_missing]
    simp [once?_gaugeRatio, isGauge, reads, fields]
  | rate other => rfl
  | deltaRatio numerator denominator => rfl

/-- What is derived from increases is missing where one of the increases is. -/
theorem twice?_of_increase {d : Derivation} (hd : d.isGauge = false) {field : String}
    {before after before' after' : Snapshot} (window : Duration)
    (h : ∀ other, increase? before' after' other =
      if field = other then none else increase? before after other) :
    d.twice? before' after' window =
      if d.reads field then none else d.twice? before after window := by
  cases d with
  | gauge other => cases hd
  | gaugeRatio numerator denominator => cases hd
  | rate other =>
    rw [twice?_rate, h]
    by_cases hfield : field = other <;> simp [twice?_rate, reads, fields, hfield]
  | deltaRatio numerator denominator =>
    rw [twice?_deltaRatio, h, h, ratio?_missing]
    simp [twice?_deltaRatio, reads, fields]

theorem twice?_without_after (d : Derivation) (before after : Snapshot) (window : Duration)
    (field : String) :
    d.twice? before (after.without field) window =
      if d.reads field then none else d.twice? before after window := by
  cases hd : d.isGauge with
  | false => exact twice?_of_increase hd window (increase?_without_after before after field)
  | true =>
    rw [d.twice?_of_isGauge hd, d.twice?_of_isGauge hd, d.once?_without, hd]
    rfl

/-- Of the first read only increases take fields. -/
theorem twice?_without_before (d : Derivation) (before after : Snapshot) (window : Duration)
    (field : String) :
    d.twice? (before.without field) after window =
      if !d.isGauge && d.reads field then none else d.twice? before after window := by
  cases hd : d.isGauge with
  | false => exact twice?_of_increase hd window (increase?_without_before before after field)
  | true =>
    rw [d.twice?_of_isGauge hd, d.twice?_of_isGauge hd]
    rfl

end Derivation

/-! ### A read that lacks a field of an instance -/

/-- A read without a field of the snapshot of an instance. -/
def withoutField (instanceName field : String) : List Snapshot → List Snapshot
  | [] => []
  | s :: rest =>
    if s.instanceName = instanceName then s.without field :: rest
    else s :: withoutField instanceName field rest

def Snapshot.lacking (instanceName field : String) (s : Snapshot) : Snapshot :=
  if s.instanceName = instanceName then s.without field else s

theorem Snapshot.instanceName_lacking (instanceName field : String) (s : Snapshot) :
    (s.lacking instanceName field).instanceName = s.instanceName := by
  unfold lacking
  split <;> rfl

/-- What is lost without a field is lost for the instance that lacks it. -/
theorem Snapshot.value_lacking (value? : Snapshot → Option Float) {s : Snapshot} {field : String}
    {lost : Bool} (h : value? (s.without field) = if lost then none else value? s)
    (instanceName : String) :
    value? (s.lacking instanceName field) =
      if !(s.instanceName == instanceName && lost) then value? s else none := by
  unfold lacking
  by_cases hs : s.instanceName = instanceName
  · rw [if_pos hs, h]
    cases lost <;> simp [hs]
  · simp [hs]

/-- Where every instance is named once, its snapshot is the only one of its name. -/
theorem withoutField_eq_map {read : List Snapshot} (h : (read.map (·.instanceName)).Nodup)
    (instanceName field : String) :
    withoutField instanceName field read = read.map (·.lacking instanceName field) := by
  induction read with
  | nil => rfl
  | cons s rest ih =>
    obtain ⟨hnew, hrest⟩ := List.nodup_cons.1 h
    rw [withoutField, List.map_cons, Snapshot.lacking]
    by_cases hs : s.instanceName = instanceName
    · have hsame : ∀ t ∈ rest, t.lacking instanceName field = t := by
        intro t ht
        refine if_neg ?_
        intro heq
        exact hnew (List.mem_map.2 ⟨t, ht, heq.trans hs.symm⟩)
      rw [if_pos hs, if_pos hs, List.map_congr_left hsame, List.map_id']
    · rw [if_neg hs, if_neg hs, ih hrest]

namespace FamilySpec

variable (spec : FamilySpec)

/-- The rows but those of an instance whose metric is derived in a way that is asked for. -/
def dropping (instanceName : String) (p : Derivation → Bool) (rows : List Row) : List Row :=
  rows.filter fun row => !(row.instanceName == instanceName && spec.derives p row.metric)

theorem dropping_contributions (hmetrics : (spec.metrics.map (·.name)).Nodup)
    (instanceName : String) (p : Derivation → Bool)
    (value? : Snapshot → Derivation → Option Float) (snapshots : List Snapshot) :
    spec.dropping instanceName p (spec.contributions value? snapshots) =
      spec.contributions
        (fun s d => if !(s.instanceName == instanceName && p d) then value? s d else none)
        snapshots := by
  refine spec.filter_contributions ?_
  intro s _ m hm v
  show (!(s.instanceName == instanceName && spec.derives p m.name)) = _
  rw [spec.derives_name hmetrics p hm]

theorem mergeMembers_of_none (hmember : spec.memberField = none) (rows : List Row) :
    spec.mergeMembers rows = rows := by
  rw [mergeMembers, hmember]
  rfl

theorem memberKey_lacking (hmember : spec.memberField = none) (instanceName field : String)
    (s : Snapshot) : spec.memberKey (s.lacking instanceName field) = spec.memberKey s := by
  rw [memberKey, memberKey, hmember, s.instanceName_lacking]
  rfl

theorem matched?_lacking (hmember : spec.memberField = none) (before : List Snapshot)
    (window : Duration) (instanceName field : String) (s : Snapshot) (d : Derivation) :
    spec.matched? before window (s.lacking instanceName field) d =
      if !(s.instanceName == instanceName && d.reads field) then spec.matched? before window s d
      else none := by
  have hsame : spec.previous? before (s.lacking instanceName field) = spec.previous? before s := by
    unfold previous?
    rw [spec.memberKey_lacking hmember]
  unfold matched?
  rw [hsame]
  cases spec.previous? before s with
  | none => exact (ite_self none).symm
  | some p =>
    exact Snapshot.value_lacking (d.twice? p · window) (d.twice?_without_after p s window field)
      instanceName

theorem matched?_map_lacking (hmember : spec.memberField = none) (before : List Snapshot)
    (window : Duration) (instanceName field : String) (s : Snapshot) (d : Derivation) :
    spec.matched? (before.map (·.lacking instanceName field)) window s d =
      if !(s.instanceName == instanceName && (!d.isGauge && d.reads field)) then
        spec.matched? before window s d
      else none := by
  have hprevious : spec.previous? (before.map (·.lacking instanceName field)) s =
      (spec.previous? before s).map (·.lacking instanceName field) := by
    unfold previous?
    rw [← List.map_reverse, List.find?_map]
    simp only [Function.comp_def, spec.memberKey_lacking hmember]
  unfold matched?
  rw [hprevious]
  cases hp : spec.previous? before s with
  | none => exact (ite_self none).symm
  | some p =>
    have hname : p.instanceName = s.instanceName :=
      spec.memberKey_instance (spec.memberKey_of_previous? hp)
    rw [← hname]
    exact Snapshot.value_lacking (d.twice? · s window) (d.twice?_without_before p s window field)
      instanceName

/-- A field that the snapshot of an instance lacks takes with it the rows of this instance whose
metric reads it: in the second read those of any metric, in the first those of increases, in a
single read those of gauges. All other rows stay as they are and where they are. -/
theorem missing_field_drops_readers (hmember : spec.memberField = none)
    (hmetrics : (spec.metrics.map (·.name)).Nodup) {before after : List Snapshot}
    (hbefore : (before.map (·.instanceName)).Nodup) (hafter : (after.map (·.instanceName)).Nodup)
    (window : Duration) (instanceName field : String) :
    deriveCumulative spec before (withoutField instanceName field after) window =
      spec.dropping instanceName (·.reads field) (deriveCumulative spec before after window) ∧
    deriveCumulative spec (withoutField instanceName field before) after window =
      spec.dropping instanceName (fun d => !d.isGauge && d.reads field)
        (deriveCumulative spec before after window) ∧
    deriveInstantaneous spec (withoutField instanceName field after) =
      spec.dropping instanceName (fun d => d.isGauge && d.reads field)
        (deriveInstantaneous spec after) := by
  have hname := Snapshot.instanceName_lacking instanceName field
  rw [withoutField_eq_map hbefore, withoutField_eq_map hafter]
  simp only [deriveCumulative_eq, deriveInstantaneous_eq, spec.mergeMembers_of_none hmember,
    spec.dropping_contributions hmetrics, spec.contributions_map hname]
  refine ⟨?_, ?_, ?_⟩
  · exact spec.contributions_congr fun s _ _ d =>
      spec.matched?_lacking hmember before window instanceName field s d
  · exact spec.contributions_congr fun s _ _ d =>
      spec.matched?_map_lacking hmember before window instanceName field s d
  · exact spec.contributions_congr fun s _ _ d =>
      Snapshot.value_lacking d.once? (d.once?_without s field) instanceName

def disksBefore : List Snapshot :=
  [⟨"sda", .ofNumbers [("reads", 10), ("read_time_ms", 100), ("in_progress", 3)]⟩,
    ⟨"sdb", .ofNumbers [("reads", 5), ("read_time_ms", 1), ("in_progress", 0)]⟩]

def disksAfter : List Snapshot :=
  [⟨"sdb", .ofNumbers [("reads", 9), ("read_time_ms", 13), ("in_progress", 1)]⟩,
    ⟨"sda", .ofNumbers [("reads", 30), ("read_time_ms", 140), ("in_progress", 2)]⟩]

theorem missing_field_drops_readers_disks :
    diskSpec.memberField = none ∧ (diskSpec.metrics.map (·.name)).Nodup ∧
      (disksBefore.map (·.instanceName)).Nodup ∧ (disksAfter.map (·.instanceName)).Nodup ∧
      deriveCumulative diskSpec disksBefore (withoutField "sda" "reads" disksAfter) (.ofSeconds 2) =
        [⟨"sdb", "Read Ops/s", 2⟩, ⟨"sdb", "Queue Length", 1⟩, ⟨"sdb", "Read Latency ms", 3⟩,
          ⟨"sda", "Queue Length", 2⟩] := by
  have hmetrics : (diskSpec.metrics.map (·.name)).Nodup := by decide
  have hbefore : (disksBefore.map (·.instanceName)).Nodup := by decide
  have hafter : (disksAfter.map (·.instanceName)).Nodup := by decide
  have hrows : diskSpec.dropping "sda" (·.reads "reads")
      (deriveCumulative diskSpec disksBefore disksAfter (.ofSeconds 2)) =
        [⟨"sdb", "Read Ops/s", 2⟩, ⟨"sdb", "Queue Length", 1⟩, ⟨"sdb", "Read Latency ms", 3⟩,
          ⟨"sda", "Queue Length", 2⟩] := by
    decide +kernel
  obtain ⟨hlast, -, -⟩ := diskSpec.missing_field_drops_readers rfl hmetrics hbefore hafter
    (.ofSeconds 2) "sda" "reads"
  exact ⟨rfl, hmetrics, hbefore, hafter, hlast.trans hrows⟩

end FamilySpec

end HostTelemetry
