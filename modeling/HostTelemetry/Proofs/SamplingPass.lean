import HostTelemetry.Proofs.Outcome
import HostTelemetry.Sampling
import Mathlib.Data.List.Basic

/-!
# The schedule of a pass

A pass visits its families in their order. A family read once is read behind the window, one that is
read twice also before it, unless its first read fails. Which answers there are depends on the
source and on the reads so far, and the rows of a family on the answers to its own reads alone.
-/

namespace HostTelemetry

/-! ### Reads and their answers -/

/-- A read of the counters with its answer. -/
abbrev Lookup := Read × Except SourceError (List Snapshot)

/-- Reads that a source answers one after the other, behind some earlier ones. -/
inductive Answered (source : CounterSource) : List Read → List Lookup → Prop
  | nil (earlier : List Read) : Answered source earlier []
  | cons {earlier : List Read} {r : Read} {rest : List Lookup} :
      Answered source (earlier ++ [r]) rest →
      Answered source earlier ((r, (source.read earlier r).result) :: rest)

def readEffects (lookups : List Lookup) : List Effect := lookups.map fun l => .read l.1

theorem answered_append {source : CounterSource} {earlier : List Read} {a b : List Lookup} :
    Answered source earlier (a ++ b) ↔
      Answered source earlier a ∧ Answered source (earlier ++ a.map (·.1)) b := by
  induction a generalizing earlier with
  | nil =>
    have hnil : Answered source earlier [] := .nil earlier
    simpa using fun _ => hnil
  | cons l a ih =>
    have hcat : earlier ++ (l :: a).map (·.1) = earlier ++ [l.1] ++ a.map (·.1) := by simp
    rw [hcat]
    constructor
    · intro h
      cases h with
      | cons h =>
        obtain ⟨ha, hb⟩ := ih.1 h
        exact ⟨.cons ha, hb⟩
    · rintro ⟨ha, hb⟩
      cases ha with
      | cons ha => exact .cons (ih.2 ⟨ha, hb⟩)

/-- What is looked up is what the source answers to some read. -/
theorem Answered.exists_read {source : CounterSource} {earlier : List Read}
    {lookups : List Lookup} (h : Answered source earlier lookups) {l : Lookup}
    (hl : l ∈ lookups) : ∃ before, (source.read before l.1).result = l.2 := by
  induction h with
  | nil => cases hl
  | @cons earlier r rest _ ih =>
    rcases List.mem_cons.1 hl with rfl | hl
    · exact ⟨earlier, rfl⟩
    · exact ih hl

namespace Act

variable {β α γ : Type} {w : Surroundings} {s : Scene β}

/-- A computation that ends with a value and does nothing but some reads. -/
def Looks (x : Act β α) (w : Surroundings) (s : Scene β) (a : α) (lookups : List Lookup) : Prop :=
  x.Meets w s fun r es t => r = .ok a ∧ es = readEffects lookups ∧
    t.progress.reads = s.progress.reads ++ lookups.map (·.1)

theorem Looks.bind {x : Act β α} {f : α → Act β γ} {a : α} {c : γ} {lookups others : List Lookup}
    (hx : x.Looks w s a lookups)
    (hf : ∀ t : Scene β, t.progress.reads = s.progress.reads ++ lookups.map (·.1) →
      (f a).Looks w t c others) : (x >>= f).Looks w s c (lookups ++ others) := by
  refine Meets.bind hx ?_ ?_
  · intro a' es t hout
    obtain ⟨hr, he, ht⟩ := hout
    cases hr
    refine (hf t ht).mono ?_
    intro r es' t' hout'
    obtain ⟨hr', he', ht'⟩ := hout'
    rw [he, he', ht', ht, List.append_assoc, ← List.map_append]
    exact ⟨hr', List.map_append.symm, rfl⟩
  · intro e es t hout
    cases hout.1

theorem looks_pure (a : α) : (pure a : Act β α).Looks w s a [] :=
  ⟨rfl, rfl, (List.append_nil _).symm⟩

theorem looks_say_bind (events : List Event) (f : Unit → Act β γ) (c : γ) (lookups : List Lookup) :
    (say events >>= f).Looks w s c lookups ↔ (f ()).Looks w s c lookups :=
  meets_say_bind ..

theorem looks_log_bind (level : Level) (speaker : Speaker) (message : String)
    (f : Unit → Act β γ) (c : γ) (lookups : List Lookup) :
    (log level speaker message >>= f).Looks w s c lookups ↔ (f ()).Looks w s c lookups :=
  meets_say_bind ..

theorem looks_readCounters (r : Read) :
    (readCounters r : Act β (Except SourceError (List Snapshot))).Looks w s
      (w.source.read s.progress.reads r).result
      [(r, (w.source.read s.progress.reads r).result)] := by
  refine ⟨rfl, ?_, rfl⟩
  show deeds ([.read r] ++ (w.source.read s.progress.reads r).notices.map .logged) = _
  rw [deeds_append, deeds_logged]
  rfl

end Act

/-- A family as it stands before the window: with the answer to its first read, if it is read twice. -/
abbrev Opening := FamilySpec × Option (Except SourceError (List Snapshot))

/-- A family that is read twice has a first answer, and no other has one. -/
def Opening.Fits (o : Opening) : Prop := o.2.isSome = true ↔ o.1.cadence = .cumulative

/-- What a pass did about one family. -/
inductive Visit where
  | once (spec : FamilySpec) (answer : Except SourceError (List Snapshot))
  /-- The first of two reads failed, and there was no second one. -/
  | lost (spec : FamilySpec) (error : SourceError)
  | twice (spec : FamilySpec) (before : List Snapshot)
      (answer : Except SourceError (List Snapshot))

namespace Visit

def spec : Visit → FamilySpec
  | once spec _ | lost spec _ | twice spec _ _ => spec

def cadence : Visit → Cadence
  | once _ _ => .instantaneous
  | lost _ _ | twice _ _ _ => .cumulative

def opening : Visit → Opening
  | once spec _ => (spec, none)
  | lost spec e => (spec, some (.error e))
  | twice spec before _ => (spec, some (.ok before))

theorem opening_fits (v : Visit) (hv : v.cadence = v.spec.cadence) : v.opening.Fits := by
  cases v with
  | once spec answer => simp [Opening.Fits, opening, show spec.cadence = .instantaneous from hv.symm]
  | lost spec e => simp [Opening.Fits, opening, show spec.cadence = .cumulative from hv.symm]
  | twice spec before answer =>
    simp [Opening.Fits, opening, show spec.cadence = .cumulative from hv.symm]

theorem cadence_eq (v : Visit) (hv : v.opening.Fits) : v.cadence = v.spec.cadence := by
  cases v with
  | once spec answer =>
    cases hc : spec.cadence with
    | instantaneous => exact hc.symm
    | cumulative => simp [Opening.Fits, opening, hc] at hv
  | lost spec e => exact (hv.1 rfl).symm
  | twice spec before answer => exact (hv.1 rfl).symm

/-- Whether there is something to wait for. -/
def isOpen : Visit → Bool
  | twice _ _ _ => true
  | _ => false

/-- Whether the family is read behind the window. -/
def goesOn : Visit → Bool
  | lost _ _ => false
  | _ => true

/-- The rows of a family all of whose reads succeeded. -/
def rows? (window : Duration) : Visit → Option FamilyRows
  | once spec (.ok snapshots) => some ⟨spec.family, deriveInstantaneous spec snapshots⟩
  | twice spec before (.ok after) => some ⟨spec.family, deriveCumulative spec before after window⟩
  | _ => none

theorem family_of_rows? (v : Visit) {window : Duration} {rows : FamilyRows}
    (h : v.rows? window = some rows) : rows.family = v.spec.family := by
  cases v with
  | once spec answer => cases answer <;> cases h; rfl
  | lost spec e => cases h
  | twice spec before answer => cases answer <;> cases h; rfl

end Visit

namespace Sampling

variable {β : Type} (s : Sampling)

/-- How a family is read. -/
def readOf (spec : FamilySpec) : Read where
  family := spec.family
  selector :=
    if spec.systemWideOnly = true ∨ spec.family = .cpu ∧ s.perCpu = false then .systemWide else .all

theorem selector_eq (spec : FamilySpec) : s.selector spec = (s.readOf spec).selector := by
  rw [selector, readOf]
  simp

def firstLookup? (o : Opening) : Option Lookup := o.2.map fun answer => (s.readOf o.1, answer)

def lastLookup? : Visit → Option Lookup
  | .once spec answer | .twice spec _ answer => some (s.readOf spec, answer)
  | .lost _ _ => none

/-- What the first reads of a pass find. -/
def found (o : Opening) : FamilySpec × Option (List Snapshot) := (o.1, o.2.bind Except.toOption)

def firstLookups (visits : List Visit) : List Lookup :=
  visits.filterMap fun v => s.firstLookup? v.opening

def lastLookups (visits : List Visit) : List Lookup := visits.filterMap s.lastLookup?

theorem specs_openings (visits : List Visit) :
    (visits.map Visit.opening).map (·.1) = visits.map Visit.spec := by
  rw [List.map_map]
  refine List.map_congr_left ?_
  intro v _
  cases v <;> rfl

theorem firstLookups_openings (visits : List Visit) :
    (visits.map Visit.opening).filterMap s.firstLookup? = s.firstLookups visits :=
  List.filterMap_map ..

/-! ### What there is to find -/

theorem exists_openings (source : CounterSource) (families : List FamilySpec)
    (earlier : List Read) : ∃ openings : List Opening,
      openings.map (·.1) = families ∧ (∀ o ∈ openings, o.Fits) ∧
        Answered source earlier (openings.filterMap s.firstLookup?) := by
  induction families generalizing earlier with
  | nil =>
    refine ⟨[], rfl, ?_, .nil earlier⟩
    intro o ho
    cases ho
  | cons spec families ih =>
    cases hc : spec.cadence with
    | instantaneous =>
      obtain ⟨openings, hmap, hfits, ha⟩ := ih earlier
      refine ⟨(spec, none) :: openings, by rw [List.map_cons, hmap], ?_, ha⟩
      rw [List.forall_mem_cons]
      exact ⟨by simp [Opening.Fits, hc], hfits⟩
    | cumulative =>
      obtain ⟨openings, hmap, hfits, ha⟩ := ih (earlier ++ [s.readOf spec])
      refine ⟨(spec, some (source.read earlier (s.readOf spec)).result) :: openings,
        by rw [List.map_cons, hmap], ?_, .cons ha⟩
      rw [List.forall_mem_cons]
      exact ⟨by simp [Opening.Fits, hc], hfits⟩

theorem exists_visits (source : CounterSource) (openings : List Opening)
    (hfits : ∀ o ∈ openings, o.Fits) (earlier : List Read) : ∃ visits : List Visit,
      visits.map Visit.opening = openings ∧
        Answered source earlier (visits.filterMap s.lastLookup?) := by
  induction openings generalizing earlier with
  | nil => exact ⟨[], rfl, .nil earlier⟩
  | cons o openings ih =>
    have hrest := ih fun o' ho => hfits o' (List.mem_cons_of_mem o ho)
    obtain ⟨spec, first⟩ := o
    rcases first with _ | e | before
    · obtain ⟨visits, hmap, ha⟩ := hrest (earlier ++ [s.readOf spec])
      exact ⟨.once spec (source.read earlier (s.readOf spec)).result :: visits,
        by rw [List.map_cons, hmap]; rfl, .cons ha⟩
    · obtain ⟨visits, hmap, ha⟩ := hrest earlier
      exact ⟨.lost spec e :: visits, by rw [List.map_cons, hmap]; rfl, ha⟩
    · obtain ⟨visits, hmap, ha⟩ := hrest (earlier ++ [s.readOf spec])
      exact ⟨.twice spec before (source.read earlier (s.readOf spec)).result :: visits,
        by rw [List.map_cons, hmap]; rfl, .cons ha⟩

/-- Whatever a source answers, there is a visit to every family that fits its answers. -/
theorem exists_pass (source : CounterSource) (earlier : List Read) : ∃ visits : List Visit,
    visits.map Visit.spec = s.families ∧ (∀ v ∈ visits, v.cadence = v.spec.cadence) ∧
      Answered source earlier (s.firstLookups visits ++ s.lastLookups visits) := by
  obtain ⟨openings, hspecs, hfits, hfirst⟩ := s.exists_openings source s.families earlier
  obtain ⟨visits, hopenings, hlast⟩ := s.exists_visits source openings hfits
    (earlier ++ (openings.filterMap s.firstLookup?).map (·.1))
  refine ⟨visits, by rw [← hspecs, ← hopenings, specs_openings], ?_, ?_⟩
  · intro v hmem
    refine v.cadence_eq ?_
    refine hfits _ ?_
    rw [← hopenings]
    exact List.mem_map_of_mem hmem
  · rw [answered_append, ← firstLookups_openings, hopenings]
    exact ⟨hfirst, hlast⟩

/-! ### How a pass goes through it -/

variable {w : Surroundings} {sc : Scene β}

theorem looks_readFamily (spec : FamilySpec) :
    (s.readFamily spec).Looks w sc
      (w.source.read sc.progress.reads (s.readOf spec)).result.toOption
      [(s.readOf spec, (w.source.read sc.progress.reads (s.readOf spec)).result)] := by
  have hread : (⟨spec.family, s.selector spec⟩ : Read) = s.readOf spec := by
    rw [selector_eq]
    rfl
  rw [readFamily, hread, ← List.append_nil [_]]
  refine (Act.looks_readCounters (s.readOf spec)).bind ?_
  intro t _
  cases (w.source.read sc.progress.reads (s.readOf spec)).result with
  | ok snapshots => exact Act.looks_pure _
  | error e =>
    dsimp only
    rw [Act.looks_log_bind]
    exact Act.looks_pure _

theorem looks_firstReads (openings : List Opening) (hfits : ∀ o ∈ openings, o.Fits)
    (ha : Answered w.source sc.progress.reads (openings.filterMap s.firstLookup?)) :
    (s.firstReads (openings.map (·.1))).Looks w sc (openings.map found)
      (openings.filterMap s.firstLookup?) := by
  induction openings generalizing sc with
  | nil => exact Act.looks_pure _
  | cons o openings ih =>
    have hothers : ∀ o' ∈ openings, o'.Fits := fun o' ho => hfits o' (List.mem_cons_of_mem o ho)
    have hfit := hfits o (List.mem_cons_self ..)
    obtain ⟨spec, first⟩ := o
    rw [List.map_cons, firstReads]
    cases first with
    | none =>
      have hc : spec.cadence = .instantaneous := by
        cases hc : spec.cadence with
        | instantaneous => rfl
        | cumulative => simp [Opening.Fits, hc] at hfit
      rw [hc, ← List.append_nil (List.filterMap _ _)]
      refine (ih hothers ha).bind ?_
      intro t _
      exact Act.looks_pure _
    | some answer =>
      rw [hfit.1 rfl]
      have hlookups : ((spec, some answer) :: openings).filterMap s.firstLookup? =
          [(s.readOf spec, answer)] ++ openings.filterMap s.firstLookup? := rfl
      rw [hlookups] at ha ⊢
      cases ha with
      | cons ha =>
      refine (s.looks_readFamily spec).bind ?_
      intro t ht
      rw [← List.append_nil (List.filterMap _ _)]
      refine (ih hothers (by rwa [ht])).bind ?_
      intro t' _
      exact Act.looks_pure _

theorem looks_rowsOf (v : Visit) (hv : v.cadence = v.spec.cadence)
    (ha : Answered w.source sc.progress.reads (s.lastLookup? v).toList) :
    (s.rowsOf v.spec (found v.opening).2).Looks w sc ((v.rows? s.window).map (·.rows))
      (s.lastLookup? v).toList := by
  unfold rowsOf
  rw [← hv]
  cases v with
  | once spec answer =>
    cases ha
    refine (s.looks_readFamily spec).bind ?_
    intro t _
    cases (w.source.read sc.progress.reads (s.readOf spec)).result with
    | ok snapshots => exact Act.looks_pure _
    | error e => exact Act.looks_pure _
  | lost spec e => exact Act.looks_pure _
  | twice spec before answer =>
    cases ha
    refine (s.looks_readFamily spec).bind ?_
    intro t _
    cases (w.source.read sc.progress.reads (s.readOf spec)).result with
    | ok snapshots =>
      dsimp only [Except.toOption]
      rw [Act.looks_say_bind]
      exact Act.looks_pure _
    | error e => exact Act.looks_pure _

theorem looks_lastReads (visits : List Visit) (hv : ∀ v ∈ visits, v.cadence = v.spec.cadence)
    (ha : Answered w.source sc.progress.reads (visits.filterMap s.lastLookup?)) :
    (s.lastReads (visits.map fun v => found v.opening)).Looks w sc
      (visits.filterMap (Visit.rows? s.window)) (visits.filterMap s.lastLookup?) := by
  induction visits generalizing sc with
  | nil => exact Act.looks_pure _
  | cons v visits ih =>
    have hcat : (v :: visits).filterMap s.lastLookup? =
        (s.lastLookup? v).toList ++ visits.filterMap s.lastLookup? := by
      cases hl : s.lastLookup? v <;> simp [hl]
    rw [hcat, answered_append] at ha
    have hfirst := s.looks_rowsOf v (hv v (List.mem_cons_self ..)) ha.1
    have hspec : (found v.opening).1 = v.spec := by cases v <;> rfl
    rw [List.map_cons, lastReads, hspec, hcat]
    refine hfirst.bind ?_
    intro t ht
    have hothers : (s.lastReads (visits.map fun v => found v.opening)).Looks w t
        (visits.filterMap (Visit.rows? s.window)) (visits.filterMap s.lastLookup?) := by
      refine ih (fun v' h => hv v' (List.mem_cons_of_mem v h)) ?_
      rw [ht]
      exact ha.2
    cases hr : v.rows? s.window with
    | none =>
      rw [List.filterMap_cons_none hr]
      exact hothers
    | some rows =>
      rw [List.filterMap_cons_some hr, Option.map_some]
      dsimp only
      rw [Act.looks_log_bind, ← List.append_nil (List.filterMap s.lastLookup? _),
        ← v.family_of_rows? hr]
      refine hothers.bind ?_
      intro t' _
      exact Act.looks_pure _

/-- A wait ends or is broken off, and reads nothing. -/
theorem waitWindow_meets :
    (s.waitWindow : Act β Unit).Meets w sc fun r es t =>
      t.progress.reads = sc.progress.reads ∧ (r = .ok () ∧ es = [.paused s.window] ∨
        r = .error .stopped ∧ es = [.paused s.window, .stopRequested] ∧
          ∃ p, w.stops p = true) := by
  rw [waitWindow, Act.meets_log_bind]
  unfold Act.Meets Act.pause
  dsimp only
  split
  · next h => exact ⟨rfl, .inr ⟨rfl, rfl, _, h⟩⟩
  · exact ⟨rfl, .inl ⟨rfl, rfl⟩⟩

/-! ### The course of a pass -/

/-- How a pass goes: it reads the families that are read twice, waits once if one of them can go
on, and reads what is to be read behind the window. It may be stopped while it waits. -/
inductive Course (w : Surroundings) (visits : List Visit) :
    Except Exit (List FamilyRows) → List Effect → Prop
  | finished : Course w visits (.ok (visits.filterMap (Visit.rows? s.window)))
      (readEffects (s.firstLookups visits) ++
        (if visits.any Visit.isOpen then [.paused s.window] else []) ++
        readEffects (s.lastLookups visits))
  | stopped : visits.any Visit.isOpen = true → (∃ p, w.stops p = true) →
      Course w visits (.error .stopped)
        (readEffects (s.firstLookups visits) ++ [.paused s.window, .stopRequested])

theorem sample_course (visits : List Visit) (hspecs : visits.map Visit.spec = s.families)
    (hv : ∀ v ∈ visits, v.cadence = v.spec.cadence)
    (ha : Answered w.source sc.progress.reads (s.firstLookups visits ++ s.lastLookups visits)) :
    s.sample.Meets w sc fun r es _ => s.Course w visits r es := by
  obtain ⟨hfirst, hlast⟩ := answered_append.1 ha
  have hfits : ∀ o ∈ visits.map Visit.opening, o.Fits := by
    intro o ho
    obtain ⟨v, hmem, rfl⟩ := List.mem_map.1 ho
    exact v.opening_fits (hv v hmem)
  have hopen : ((visits.map Visit.opening).map found).any (·.2.isSome) =
      visits.any Visit.isOpen := by
    rw [List.map_map, List.any_map]
    congr 1
    funext v
    cases v <;> rfl
  have hreads : (s.firstReads s.families).Looks w sc ((visits.map Visit.opening).map found)
      (s.firstLookups visits) := by
    rw [← hspecs, ← specs_openings, ← firstLookups_openings]
    refine s.looks_firstReads (visits.map Visit.opening) hfits ?_
    rwa [firstLookups_openings]
  rw [sample]
  refine Act.Meets.bind hreads ?_ ?_
  · intro firsts es t hout
    obtain ⟨hr, he, ht⟩ := hout
    cases hr
    have hrest : ∀ t' : Scene β, t'.progress.reads = t.progress.reads →
        (s.lastReads ((visits.map Visit.opening).map found)).Looks w t'
          (visits.filterMap (Visit.rows? s.window)) (s.lastLookups visits) := by
      intro t' ht'
      rw [List.map_map]
      refine s.looks_lastReads visits hv ?_
      rw [ht', ht]
      exact hlast
    dsimp only
    rw [hopen]
    split
    · next hany =>
      refine s.waitWindow_meets.bind ?_ ?_
      · intro _ es' t' hout
        obtain ⟨ht', ⟨-, he'⟩ | ⟨h, -⟩⟩ := hout
        · refine (hrest t' ht').mono ?_
          intro r es'' t'' hout
          obtain ⟨hr, he'', -⟩ := hout
          have hf : s.Course w visits _ _ := .finished
          rw [if_pos hany, List.append_assoc] at hf
          rwa [he, he', he'', hr]
        · cases h
      · intro e es' t' hout
        obtain ⟨-, ⟨h, -⟩ | ⟨h, he', hw⟩⟩ := hout
        · cases h
        · cases h
          rw [he, he']
          exact .stopped hany hw
    · next hany =>
      refine (hrest t rfl).mono ?_
      intro r es' t' hout
      obtain ⟨hr, he', -⟩ := hout
      have hf : s.Course w visits _ _ := .finished
      rw [if_neg hany, List.append_nil] at hf
      rwa [he, he', hr]
  · intro e es t hout
    cases hout.1

/-! ### Which reads a pass makes -/

theorem reads_firstLookups (visits : List Visit) (hv : ∀ v ∈ visits, v.cadence = v.spec.cadence) :
    (s.firstLookups visits).map (·.1) =
      ((visits.map Visit.spec).filter fun spec => spec.cadence = .cumulative).map s.readOf := by
  rw [firstLookups, List.map_filterMap, List.filter_map, List.map_map, ← List.filterMap_eq_map,
    List.filterMap_filter]
  refine List.filterMap_congr ?_
  intro v hmem
  simp only [Function.comp_apply, ← hv v hmem]
  cases v <;> rfl

theorem reads_lastLookups (visits : List Visit) :
    (s.lastLookups visits).map (·.1) =
      (visits.filter Visit.goesOn).map fun v => s.readOf v.spec := by
  rw [lastLookups, List.map_filterMap, ← List.filterMap_eq_map, List.filterMap_filter]
  refine List.filterMap_congr ?_
  intro v _
  cases v <;> rfl

theorem exists_of_mem_readEffects {visits : List Visit} {look : Visit → Option Lookup}
    (hlook : ∀ v l, look v = some l → l.1 = s.readOf v.spec) {read : Read}
    (h : .read read ∈ readEffects (visits.filterMap look)) :
    ∃ v ∈ visits, read = s.readOf v.spec := by
  obtain ⟨l, hl, heq⟩ := List.mem_map.1 h
  obtain ⟨v, hv, hsome⟩ := List.mem_filterMap.1 hl
  cases heq
  exact ⟨v, hv, hlook v l hsome⟩

theorem Course.mem_read {visits : List Visit} {r : Except Exit (List FamilyRows)}
    {es : List Effect} (h : s.Course w visits r es) {read : Read} (hmem : .read read ∈ es) :
    ∃ v ∈ visits, read = s.readOf v.spec := by
  have hfirst : ∀ v l, s.firstLookup? (Visit.opening v) = some l → l.1 = s.readOf v.spec := by
    intro v l hl
    cases v <;> cases hl <;> rfl
  have hlast : ∀ v l, s.lastLookup? v = some l → l.1 = s.readOf v.spec := by
    intro v l hl
    cases v <;> cases hl <;> rfl
  cases h with
  | finished =>
    rw [List.mem_append, List.mem_append] at hmem
    rcases hmem with (hread | hpause) | hread
    · exact s.exists_of_mem_readEffects hfirst hread
    · split at hpause <;> simp at hpause
    · exact s.exists_of_mem_readEffects hlast hread
  | stopped =>
    rw [List.mem_append] at hmem
    rcases hmem with hread | hpause
    · exact s.exists_of_mem_readEffects hfirst hread
    · simp at hpause

/-! ### The schedule -/

/-- A sampling that was made for a source, from a list of families. -/
inductive Built (source : CounterSource) : Sampling → List FamilySpec → Prop
  | new (window : Duration) (perCpu : Bool) : Built source (.new source window perCpu) catalog
  | withFamilies {s : Sampling} {given : List FamilySpec} (families : List FamilySpec) :
      Built source s given → Built source (s.withFamilies source families) families

theorem Built.families_eq {s : Sampling} {source : CounterSource} {given : List FamilySpec}
    (h : Built source s given) : s.families = supportedFamilies source given := by
  cases h <;> rfl

/-- What a pass over the given families does about each of them, and in which order it reads. -/
structure Schedules (source : CounterSource) (earlier : List Read) (given : List FamilySpec)
    (visits : List Visit) : Prop where
  specs : visits.map Visit.spec = given.filter fun spec => source.supports spec.family
  cadence : ∀ v ∈ visits, v.cadence = v.spec.cadence
  answered : Answered source earlier (s.firstLookups visits ++ s.lastLookups visits)
  firsts : (s.firstLookups visits).map (·.1) =
    ((given.filter fun spec => source.supports spec.family).filter fun spec =>
      spec.cadence = .cumulative).map s.readOf
  lasts : (s.lastLookups visits).map (·.1) =
    (visits.filter Visit.goesOn).map fun v => s.readOf v.spec

theorem exists_schedule {source : CounterSource} {given : List FamilySpec}
    (hs : Built source s given) (earlier : List Read) :
    ∃ visits, s.Schedules source earlier given visits := by
  obtain ⟨visits, hmap, hv, ha⟩ := s.exists_pass source earlier
  have hgiven : visits.map Visit.spec = given.filter fun spec => source.supports spec.family := by
    rw [hmap, hs.families_eq]
    rfl
  refine ⟨visits, hgiven, hv, ha, ?_, s.reads_lastLookups visits⟩
  rw [← hgiven]
  exact s.reads_firstLookups visits hv

/-- The rows of a family come from what was done about it, and from nothing else. -/
theorem filter_rows_family (window : Duration) (visits : List Visit) (family : Family) :
    (visits.filterMap (Visit.rows? window)).filter (·.family = family) =
      (visits.filter (·.spec.family = family)).filterMap (Visit.rows? window) := by
  rw [List.filter_filterMap, List.filterMap_filter]
  refine List.filterMap_congr ?_
  intro v _
  cases hr : v.rows? window with
  | none => simp
  | some rows => simp [Option.filter, v.family_of_rows? hr]

/-- A pass follows its schedule, whatever its source answers: it reads no family that the source
does not support, and the rows of a family rest on the answers to the reads of that family. -/
theorem sample_follows_schedule (w : Surroundings) (sc : Scene β) {given : List FamilySpec}
    (hs : Built w.source s given) :
    s.sample.Meets w sc fun r es _ => ∃ visits,
      s.Schedules w.source sc.progress.reads given visits ∧ s.Course w visits r es ∧
      (∀ read, .read read ∈ es → w.source.supports read.family = true) ∧
      ∀ sampled, r = .ok sampled → ∀ family, sampled.filter (·.family = family) =
        (visits.filter (·.spec.family = family)).filterMap (Visit.rows? s.window) := by
  obtain ⟨visits, hvisits⟩ := s.exists_schedule hs sc.progress.reads
  have hmap : visits.map Visit.spec = s.families := by
    rw [hvisits.specs, hs.families_eq]
    rfl
  refine (s.sample_course visits hmap hvisits.cadence hvisits.answered).mono ?_
  intro r es _ hcourse
  refine ⟨visits, hvisits, hcourse, ?_, ?_⟩
  · intro read hread
    obtain ⟨v, hv, rfl⟩ := hcourse.mem_read s hread
    have hmem : v.spec ∈ given.filter fun spec => w.source.supports spec.family := by
      rw [← hvisits.specs]
      exact List.mem_map_of_mem hv
    exact (List.mem_filter.1 hmem).2
  · intro sampled hr family
    cases hcourse with
    | finished =>
      cases hr
      exact filter_rows_family s.window visits family
    | stopped => cases hr

/-- No connections can be counted here, and the processor does not answer. -/
def partialWorld : Surroundings where
  source := .scripted
    (fun
      | .memory | .disk => [.ok [⟨"", .ofNumbers [("available_bytes", 0), ("read_bytes", 7)]⟩]]
      | .cpu => [.error (.unavailable "offline")]
      | _ => [.ok []])
    fun family => family ≠ .tcp

def partialFamilies : List FamilySpec := [diskSpec, tcpSpec, cpuSpec, memorySpec, networkSpec]

def partialSampling : Sampling :=
  (Sampling.new partialWorld.source .zero false).withFamilies partialWorld.source partialFamilies

def partialScene : Scene MemoryBackend := ⟨{ backend := ⟨[]⟩ }, {}⟩

theorem sample_follows_schedule_partial :
    (partialSampling.sample partialWorld partialScene).result.map (·.map (·.family)) =
      .ok [.disk, .memory, .network] ∧
    ∃ visits, partialSampling.Schedules partialWorld.source [] partialFamilies visits ∧
      ∀ sampled, (partialSampling.sample partialWorld partialScene).result = .ok sampled →
        sampled.filter (·.family = .disk) =
          (visits.filter (·.spec.family = .disk)).filterMap (Visit.rows? .zero) := by
  have hfamilies : (partialSampling.sample partialWorld partialScene).result.map
      (·.map (·.family)) = .ok [.disk, .memory, .network] := by
    decide +kernel
  obtain ⟨visits, hvisits, -, -, hrows⟩ :=
    partialSampling.sample_follows_schedule partialWorld partialScene
      (.withFamilies partialFamilies (.new .zero false))
  exact ⟨hfamilies, visits, hvisits, fun sampled hsampled => hrows sampled hsampled .disk⟩

end Sampling

end HostTelemetry
