import HostTelemetry.Kernel.Source
import HostTelemetry.Proofs.DerivedRows
import HostTelemetry.Proofs.SamplingPass

/-!
# Rows of single processors

Whether the single processors are asked for decides how the family of the processors is read, and
nothing else: the kernel parses the same text and leaves out more of its entries. Since rows follow
from the snapshots of their own instance, a pass without the single processors gives the rows of a
pass with them, less their rows. The kernel may change between any two reads.
-/

namespace HostTelemetry

/-! ### A kernel that changes -/

namespace Kernel

/-- The kernel met by each read at a moment of its own: which one it is depends on the family and on
those that were read before it, so the window may separate two moments. -/
def changing (moment : List Family → Family → Roots × Files) (supports : Family → Bool) :
    CounterSource where
  supports := supports
  read earlier r :=
    let (roots, files) := moment (earlier.map (·.family)) r.family
    roots.reading files r

/-- Whether a read fails does not depend on which instances it asks for. -/
theorem isOk_reading (r : Roots) (files : Files) (read : Read) :
    (r.reading files read).result.isOk = (r.entries files read.family).result.isOk := by
  show (((r.entries files read.family).result).map _).isOk = _
  cases (r.entries files read.family).result <;> rfl

/-- Two moments that take turns are such a kernel. -/
theorem twoMoments_eq_changing (files : Files) (first second : Roots) (supports : Family → Bool) :
    ∃ moment, twoMoments files first second supports = changing moment supports := by
  have hturn (earlier : List Read) (family : Family) :
      atFirstMoment files first second family ((earlier.map (·.family)).map (⟨·, .all⟩)) =
        atFirstMoment files first second family earlier := by
    unfold atFirstMoment
    rw [List.foldl_map, List.foldl_map]
    congr 1
    funext atFirst read
    dsimp only
    have hsame := (isOk_reading (if atFirst then first else second) files ⟨read.family, .all⟩).trans
      (isOk_reading (if atFirst then first else second) files read).symm
    split
    · revert hsame
      cases ((if atFirst then first else second).reading files ⟨read.family, .all⟩).result <;>
        cases ((if atFirst then first else second).reading files read).result <;>
          simp [Except.isOk, Except.toBool]
    · rfl
  refine ⟨fun earlier family => (if family.spec.cadence = .cumulative ∧
    atFirstMoment files first second family (earlier.map (⟨·, .all⟩)) then first else second,
    files), ?_⟩
  unfold twoMoments changing
  congr 1
  funext earlier read
  dsimp only
  rw [hturn]
  cases read.family.spec.cadence with
  | instantaneous => simp only [reduceCtorEq, false_and, if_false]
  | cumulative =>
    simp only [true_and]
    split <;> rfl

end Kernel

/-! ### The system-wide processor -/

/-- The snapshots of a family that are left without the single processors. -/
def Family.systemWide (family : Family) (snapshots : List Snapshot) : List Snapshot :=
  if family = .cpu then keepSnapshots String.isEmpty snapshots else snapshots

/-- The rows of a family that are left without the single processors. -/
def FamilyRows.systemWide (f : FamilyRows) : FamilyRows :=
  { f with rows := if f.family = .cpu then f.rows.filter (·.instanceName.isEmpty) else f.rows }

def Read.systemWide (r : Read) : Read :=
  if r.family = .cpu then { r with selector := .systemWide } else r

theorem Read.family_systemWide (r : Read) : r.systemWide.family = r.family := by
  unfold systemWide
  split <;> rfl

def Lookup.systemWide (l : Lookup) : Lookup :=
  (l.1.systemWide, l.2.map l.1.family.systemWide)

/-- Asking for fewer instances gives the same entries, fewer of them being kept. -/
theorem Kernel.reading_systemWide (roots : Roots) (files : Files) (r : Read) :
    (roots.reading files r.systemWide).result =
      (roots.reading files r).result.map r.family.systemWide := by
  by_cases hcpu : r.family = .cpu
  · have hread : r.systemWide = { r with selector := .systemWide } := if_pos hcpu
    have hkept : r.family.systemWide = keepSnapshots String.isEmpty := by
      funext snapshots
      exact if_pos hcpu
    rw [hread, hkept]
    unfold Kernel.Roots.reading
    dsimp only
    cases (roots.entries files r.family).result with
    | error e => rfl
    | ok entries =>
      -- A selector keeps the system-wide instance whatever else it keeps.
      have hadmits (e : Kernel.Entry) : (Selector.systemWide.admits e.1) =
          (e.1.isEmpty && r.selector.admits e.1) := by
        cases r.selector <;> simp [Selector.admits]
      simp only [Except.map, keepSnapshots, List.filter_map, List.filter_filter,
        Function.comp_def, hadmits]
  · have hread : r.systemWide = r := if_neg hcpu
    have hall : r.family.systemWide = id := by
      funext snapshots
      exact if_neg hcpu
    rw [hread, hall]
    cases (roots.reading files r).result <;> rfl

theorem Answered.systemWide {moment : List Family → Family → Kernel.Roots × Files}
    {supports : Family → Bool} {earlier earlier' : List Read} {lookups : List Lookup}
    (h : Answered (Kernel.changing moment supports) earlier lookups)
    (heq : earlier'.map (·.family) = earlier.map (·.family)) :
    Answered (Kernel.changing moment supports) earlier' (lookups.map Lookup.systemWide) := by
  induction h generalizing earlier' with
  | nil => exact .nil earlier'
  | @cons earlier r rest _ ih =>
    have hanswer : ((Kernel.changing moment supports).read earlier' r.systemWide).result =
        ((Kernel.changing moment supports).read earlier r).result.map r.family.systemWide := by
      simp only [Kernel.changing, heq, r.family_systemWide]
      exact Kernel.reading_systemWide _ _ r
    have hrest := @ih (earlier' ++ [r.systemWide]) (by simp [heq, r.family_systemWide])
    rw [List.map_cons, Lookup.systemWide, ← hanswer]
    exact .cons hrest

/-! ### Visits -/

/-- What becomes of a visit without the single processors. -/
def Visit.systemWide : Visit → Visit
  | once spec answer => once spec (answer.map spec.family.systemWide)
  | lost spec e => lost spec e
  | twice spec before answer =>
    twice spec (spec.family.systemWide before) (answer.map spec.family.systemWide)

theorem Visit.spec_systemWide (v : Visit) : v.systemWide.spec = v.spec := by cases v <;> rfl

theorem Visit.cadence_systemWide (v : Visit) : v.systemWide.cadence = v.cadence := by
  cases v <;> rfl

theorem Visit.rows?_systemWide (window : Duration) (v : Visit) :
    v.systemWide.rows? window = (v.rows? window).map FamilyRows.systemWide := by
  have honce (spec : FamilySpec) (snapshots : List Snapshot) :
      (⟨spec.family, deriveInstantaneous spec (spec.family.systemWide snapshots)⟩ : FamilyRows) =
        FamilyRows.systemWide ⟨spec.family, deriveInstantaneous spec snapshots⟩ := by
    unfold FamilyRows.systemWide Family.systemWide
    dsimp only
    split
    · rw [← spec.keepRows_deriveInstantaneous]
      rfl
    · rfl
  have htwice (spec : FamilySpec) (before after : List Snapshot) :
      (⟨spec.family, deriveCumulative spec (spec.family.systemWide before)
          (spec.family.systemWide after) window⟩ : FamilyRows) =
        FamilyRows.systemWide ⟨spec.family, deriveCumulative spec before after window⟩ := by
    unfold FamilyRows.systemWide Family.systemWide
    dsimp only
    split
    · rw [← spec.keepRows_deriveCumulative]
      rfl
    · rfl
  cases v with
  | once spec answer =>
    cases answer with
    | error e => rfl
    | ok snapshots => exact congrArg some (honce spec snapshots)
  | lost spec e => rfl
  | twice spec before answer =>
    cases answer with
    | error e => rfl
    | ok after => exact congrArg some (htwice spec before after)

namespace Sampling

variable {β : Type} (s : Sampling)

theorem Course.result_eq {s : Sampling} {w : Surroundings} {visits : List Visit}
    {r : Except Exit (List FamilyRows)} {es : List Effect} (h : s.Course w visits r es)
    (hw : ∀ p, w.stops p = false) : r = .ok (visits.filterMap (Visit.rows? s.window)) := by
  cases h with
  | finished => rfl
  | stopped _ hstop =>
    obtain ⟨p, hp⟩ := hstop
    rw [hw p] at hp
    cases hp

/-! ### Two passes -/

theorem readOf_systemWide (spec : FamilySpec) :
    { s with perCpu := false }.readOf spec = ({ s with perCpu := true }.readOf spec).systemWide := by
  by_cases hcpu : spec.family = .cpu <;> simp [readOf, Read.systemWide, hcpu]

theorem firstLookups_systemWide (visits : List Visit) :
    { s with perCpu := false }.firstLookups (visits.map Visit.systemWide) =
      ({ s with perCpu := true }.firstLookups visits).map Lookup.systemWide := by
  rw [firstLookups, List.filterMap_map, firstLookups, List.map_filterMap]
  refine List.filterMap_congr ?_
  intro v _
  cases v with
  | once spec answer => rfl
  | lost spec e | twice spec before answer =>
    simp only [Function.comp_apply, Visit.systemWide, Visit.opening, firstLookup?, Option.map_some,
      readOf_systemWide s spec, Lookup.systemWide]
    rfl

theorem lastLookups_systemWide (visits : List Visit) :
    { s with perCpu := false }.lastLookups (visits.map Visit.systemWide) =
      ({ s with perCpu := true }.lastLookups visits).map Lookup.systemWide := by
  rw [lastLookups, List.filterMap_map, lastLookups, List.map_filterMap]
  refine List.filterMap_congr ?_
  intro v _
  cases v with
  | lost spec e => rfl
  | once spec answer | twice spec before answer =>
    simp only [Function.comp_apply, Visit.systemWide, lastLookup?, Option.map_some,
      readOf_systemWide s spec, Lookup.systemWide]
    rfl

/-- Without the single processors a pass gives the same families in the same order, with the same
rows but those of single processors. -/
theorem sample_without_processors (moment : List Family → Family → Kernel.Roots × Files)
    (supports : Family → Bool) (w : Surroundings) (sc : Scene β) :
    let kernel := { w with source := Kernel.changing moment supports, stops := fun _ => false }
    ∃ sampled, ({ s with perCpu := true }.sample kernel sc).result = .ok sampled ∧
      ({ s with perCpu := false }.sample kernel sc).result =
        .ok (sampled.map FamilyRows.systemWide) := by
  intro kernel
  obtain ⟨visits, hmap, hv, ha⟩ := { s with perCpu := true }.exists_pass kernel.source
    sc.progress.reads
  have hnarrow : Answered kernel.source sc.progress.reads
      ({ s with perCpu := false }.firstLookups (visits.map Visit.systemWide) ++
        { s with perCpu := false }.lastLookups (visits.map Visit.systemWide)) := by
    rw [firstLookups_systemWide, lastLookups_systemWide, ← List.map_append]
    exact ha.systemWide rfl
  have hspecs : (visits.map Visit.systemWide).map Visit.spec = s.families := by
    rw [← hmap, List.map_map]
    exact List.map_congr_left fun v _ => v.spec_systemWide
  have hcadence : ∀ v ∈ visits.map Visit.systemWide, v.cadence = v.spec.cadence := by
    intro v hmem
    obtain ⟨v, hvisit, rfl⟩ := List.mem_map.1 hmem
    rw [v.cadence_systemWide, v.spec_systemWide, hv v hvisit]
  have hrows : (visits.map Visit.systemWide).filterMap (Visit.rows? s.window) =
      (visits.filterMap (Visit.rows? s.window)).map FamilyRows.systemWide := by
    rw [List.filterMap_map, List.map_filterMap]
    exact List.filterMap_congr fun v _ => v.rows?_systemWide s.window
  refine ⟨visits.filterMap (Visit.rows? s.window), ?_, ?_⟩
  · exact ({ s with perCpu := true }.sample_course visits hmap hv ha).result_eq fun _ => rfl
  · rw [← hrows]
    exact ({ s with perCpu := false }.sample_course _ hspecs hcadence hnarrow).result_eq
      fun _ => rfl

end Sampling

end HostTelemetry
