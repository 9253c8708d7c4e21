import HostTelemetry.Counter.Derive
import HostTelemetry.Effect

/-!
# Sampling

One pass over the families: first the first reads of the families that are read twice, then one
wait for the window if any of these succeeded, then, in the order of the families, the reads of the
others and the second reads. A family with a failing read is left out and disturbs no other.
-/

namespace HostTelemetry

structure FamilyRows where
  family : Family
  rows : List Row

structure Sampling where
  families : List FamilySpec
  window : Duration
  perCpu : Bool

def supportedFamilies (source : CounterSource) (families : List FamilySpec) : List FamilySpec :=
  families.filter fun f => source.supports f.family

def unsupportedEvents (source : CounterSource) (families : List FamilySpec) : List Event :=
  (families.filter fun f => !source.supports f.family).map fun f =>
    ⟨.info, .sampling, f.family.name ++ " counters are not available on this platform"⟩

namespace Sampling

variable {β : Type}

/-- All families of the catalog that a source can provide. -/
def new (source : CounterSource) (window : Duration) (perCpu : Bool) : Sampling :=
  ⟨supportedFamilies source catalog, window, perCpu⟩

/-- Samples the given families instead, as far as the source can provide them. -/
def withFamilies (s : Sampling) (source : CounterSource) (families : List FamilySpec) : Sampling :=
  { s with families := supportedFamilies source families }

def selector (s : Sampling) (spec : FamilySpec) : Selector :=
  if spec.systemWideOnly || (spec.family == .cpu && !s.perCpu) then .systemWide else .all

def readFamily (s : Sampling) (spec : FamilySpec) : Act β (Option (List Snapshot)) := do
  match ← Act.readCounters ⟨spec.family, s.selector spec⟩ with
  | .ok snapshots => return some snapshots
  | .error e =>
    Act.log .warn .sampling ("Skipping " ++ spec.family.name ++ " metrics: " ++ e.message)
    return none

/-- The families with their first reads, where they have one and it succeeded. -/
def firstReads (s : Sampling) :
    List FamilySpec → Act β (List (FamilySpec × Option (List Snapshot)))
  | [] => return []
  | spec :: rest => do
    let first ← match spec.cadence with
      | .cumulative => s.readFamily spec
      | .instantaneous => pure none
    let others ← s.firstReads rest
    return (spec, first) :: others

def rowsOf (s : Sampling) (spec : FamilySpec) (first : Option (List Snapshot)) :
    Act β (Option (List Row)) :=
  match spec.cadence, first with
  | .instantaneous, _ => do
    let last ← s.readFamily spec
    return last.map (deriveInstantaneous spec)
  | .cumulative, none => return none
  | .cumulative, some before => do
    match ← s.readFamily spec with
    | none => return none
    | some after =>
      Act.say (spec.unmatchedEvents before after)
      return some (deriveCumulative spec before after s.window)

def lastReads (s : Sampling) :
    List (FamilySpec × Option (List Snapshot)) → Act β (List FamilyRows)
  | [] => return []
  | (spec, first) :: rest => do
    match ← s.rowsOf spec first with
    | none => s.lastReads rest
    | some rows =>
      Act.log .debug .sampling
        ("Derived " ++ toString rows.length ++ " " ++ spec.family.name ++ " metrics")
      let others ← s.lastReads rest
      return ⟨spec.family, rows⟩ :: others

def waitWindow (s : Sampling) : Act β Unit := do
  Act.log .debug .sampling ("Waiting " ++ s.window.secondsText ++ "s between counter reads")
  Act.pause s.window

/-- One pass over all families. -/
def sample (s : Sampling) : Act β (List FamilyRows) := do
  let firsts ← s.firstReads s.families
  if firsts.any (·.2.isSome) then s.waitWindow
  s.lastReads firsts

variable [Backend β]

/-- Puts rows into the store; gives the number of those that were stored. -/
def recordRows : List Row → Act β Nat
  | [] => return 0
  | row :: rest => do
    match ← Act.record row with
    | .brokeOff message => Act.exit (.brokeOff message)
    | .dropped => recordRows rest
    | .stored =>
      let n ← recordRows rest
      return n + 1

/-- One pass whose rows go into the store; gives the number of those that were stored. -/
def collect (s : Sampling) : Act β Nat := do
  let sampled ← s.sample
  let written ← recordRows (sampled.flatMap (·.rows))
  Act.log .debug .sampling ("Stored " ++ toString written ++ " metric records")
  return written

end Sampling

end HostTelemetry
