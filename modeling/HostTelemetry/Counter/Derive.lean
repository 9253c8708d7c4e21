import HostTelemetry.Counter.Catalog
import HostTelemetry.Counter.Snapshot
import HostTelemetry.Duration
import HostTelemetry.Row
import HostTelemetry.Text.Quoted

/-!
# From counters to rows

A family read once gives its gauges and gauge ratios. A family read twice, one window apart, also
gives rates and ratios of increases; a counter that went backwards counts as not having moved. The
rows follow the order of the last read, and within an instance the order of the metrics. Snapshots
of one instance with different members are matched member by member and their rows are summed.
-/

namespace HostTelemetry

/-- The increase of a counter; a reset or a wrap counts as none. -/
def counterDelta (before after : Float) : Float :=
  if after < before then 0.0 else after - before

def ratio (numerator denominator : Float) : Float :=
  if denominator > 0.0 then numerator / denominator else 0.0

def Derivation.once? (d : Derivation) (s : Snapshot) : Option Float :=
  match d with
  | .gauge field => s.field? field
  | .gaugeRatio numerator denominator => do
    let n ← s.field? numerator
    let d ← s.field? denominator
    some (ratio n d)
  | .rate _ | .deltaRatio _ _ => none

def increase? (before after : Snapshot) (field : String) : Option Float := do
  let b ← before.field? field
  let a ← after.field? field
  some (counterDelta b a)

def Derivation.twice? (d : Derivation) (before after : Snapshot) (window : Duration) :
    Option Float :=
  match d with
  | .gauge _ | .gaugeRatio _ _ => d.once? after
  | .rate field => do
    let increase ← increase? before after field
    let seconds := window.inSeconds
    some (if seconds > 0.0 then increase / seconds else 0.0)
  | .deltaRatio numerator denominator => do
    let n ← increase? before after numerator
    let d ← increase? before after denominator
    some (ratio n d)

/-- The rows of one instance: its metrics in order, those without a value left out. -/
def FamilySpec.rowsOf (spec : FamilySpec) (instanceName : String)
    (value? : Derivation → Option Float) : List Row :=
  spec.metrics.filterMap fun m =>
    (value? m.derivation).map fun v => ⟨instanceName, m.name, v * m.factor⟩

/-! ### Members of one instance -/

/-- What a snapshot is matched by: its instance, and the bits of its member if it has one. -/
def FamilySpec.memberKey (spec : FamilySpec) (s : Snapshot) : String × Option UInt64 :=
  (s.instanceName, (spec.memberField.bind s.value?).map Value.bits)

/-- Adds a row to the one of its series, or puts it at the end. -/
def addRow : List Row → Row → List Row
  | [], row => [row]
  | r :: rest, row =>
    if r.sameSeries row then { r with value := r.value + row.value } :: rest
    else r :: addRow rest row

/-- One row for each series, in the order of first occurrence, summed from left to right. -/
def sumSeries (rows : List Row) : List Row := rows.foldl addRow []

/-- Sums the members of each instance, in a family that has members. -/
def FamilySpec.mergeMembers (spec : FamilySpec) (rows : List Row) : List Row :=
  if spec.memberField.isSome then sumSeries rows else rows

/-! ### One read -/

def FamilySpec.contributionsOnce (spec : FamilySpec) (snapshots : List Snapshot) : List Row :=
  snapshots.flatMap fun s =>
    if spec.excludes s.instanceName then [] else spec.rowsOf s.instanceName (·.once? s)

def deriveInstantaneous (spec : FamilySpec) (snapshots : List Snapshot) : List Row :=
  spec.mergeMembers (spec.contributionsOnce snapshots)

/-! ### Two reads -/

/-- The snapshot of the first read with the key of `current`; of several the last one. -/
def FamilySpec.previous? (spec : FamilySpec) (before : List Snapshot) (current : Snapshot) :
    Option Snapshot :=
  before.reverse.find? fun s => spec.memberKey s = spec.memberKey current

def FamilySpec.contributionsTwice (spec : FamilySpec) (before after : List Snapshot)
    (window : Duration) : List Row :=
  after.flatMap fun s =>
    if spec.excludes s.instanceName then []
    else
      match spec.previous? before s with
      | some p => spec.rowsOf s.instanceName (·.twice? p s window)
      | none => []

/-- The rows of a family from two reads. An instance that only one of them has is skipped; a field
that one of them lacks drops the metrics that need it. -/
def deriveCumulative (spec : FamilySpec) (before after : List Snapshot) (window : Duration) :
    List Row :=
  spec.mergeMembers (spec.contributionsTwice before after window)

/-- What is said about the snapshots of the second read that the first one lacks. -/
def FamilySpec.unmatchedEvents (spec : FamilySpec) (before after : List Snapshot) : List Event :=
  after.filterMap fun s =>
    if spec.excludes s.instanceName || (spec.previous? before s).isSome then none
    else some ⟨.debug, .sampling, "Skipping " ++ spec.family.name ++ " instance " ++
      Text.quoted s.instanceName ++ " missing from the first read"⟩

end HostTelemetry
