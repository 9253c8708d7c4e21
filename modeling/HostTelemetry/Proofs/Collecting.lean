import HostTelemetry.Proofs.Outcome
import HostTelemetry.Proofs.StoreContents
import HostTelemetry.Sampling

/-!
# What a pass puts into the store

Sampling reads and waits and leaves the store alone. What it derived is then given to the store row
by row; a row that is refused is lost and the next one follows.
-/

namespace HostTelemetry

namespace Act

variable {β α γ : Type}

/-- A computation that neither uses the store nor sends anything. -/
def Quiet (x : Act β α) : Prop :=
  ∀ w s, x.Meets w s fun _ es t => t.store = s.store ∧ exchanges es = [] ∧ recordings es = []

theorem Quiet.bind {x : Act β α} {f : α → Act β γ} (hx : x.Quiet) (hf : ∀ a, (f a).Quiet) :
    (x >>= f).Quiet := by
  intro w s
  refine (hx w s).bind ?_ ?_
  · intro a es t hout
    obtain ⟨ht, hx, hr⟩ := hout
    refine (hf a w t).mono ?_
    intro r es' t' hout
    obtain ⟨ht', hx', hr'⟩ := hout
    refine ⟨ht'.trans ht, ?_, ?_⟩
    · rw [exchanges_append, hx, hx', List.append_nil]
    · rw [recordings_append, hr, hr', List.append_nil]
  · intro e es t h
    exact h

theorem quiet_pure (a : α) : (pure a : Act β α).Quiet := fun _ _ => ⟨rfl, rfl, rfl⟩

theorem quiet_say (events : List Event) : (say events : Act β Unit).Quiet := by
  intro w s
  refine ⟨rfl, ?_, ?_⟩
  · rw [say, deeds_logged]
    rfl
  · rw [say, deeds_logged]
    rfl

theorem quiet_log (level : Level) (speaker : Speaker) (message : String) :
    (log level speaker message : Act β Unit).Quiet := quiet_say _

theorem quiet_pause (d : Duration) : (pause d : Act β Unit).Quiet := by
  intro w s
  refine (meets_pause d).mono ?_
  intro r es t hout
  obtain ⟨ht, hx, hr, -⟩ := hout
  exact ⟨ht, hx, hr⟩

theorem quiet_readCounters (r : Read) :
    (readCounters r : Act β (Except SourceError (List Snapshot))).Quiet := by
  intro w s
  have hd : deeds (readCounters r w s).effects = [.read r] := by
    show deeds ([.read r] ++ (w.source.read s.progress.reads r).notices.map .logged) = _
    rw [deeds_append, deeds_logged]
    rfl
  unfold Meets
  rw [hd]
  exact ⟨rfl, rfl, rfl⟩

/-- A row is recorded once, and the store has it behind the others if it took it. -/
theorem meets_record [Backend β] [LawfulBackend β] {w : Surroundings} {s : Scene β} (row : Row) :
    (record row : Act β RecordAnswer).Meets w s fun r es t =>
      ∃ answer, r = .ok answer ∧ exchanges es = [] ∧ recordings es = [(row, answer)] ∧
        t.store.contents = s.store.contents ++ storedRows es := by
  have hd : deeds (record row w s).effects = [.recorded row (s.store.record row).answer] := by
    show deeds ([.recorded row _] ++ (s.store.record row).events.map .logged) = _
    rw [deeds_append, deeds_logged]
    rfl
  have hc := s.store.contents_record row
  unfold Meets
  rw [hd]
  refine ⟨(s.store.record row).answer, rfl, rfl, rfl, ?_⟩
  show (s.store.record row).store.contents = _
  rw [hc]
  by_cases ha : (s.store.record row).answer = .stored
  · simp [storedRows, recordings, Effect.recording?, Recording.stored?, ha]
  · simp [storedRows, recordings, Effect.recording?, Recording.stored?, ha]

end Act

namespace Sampling

variable {β : Type} (s : Sampling)

/-! ### Sampling -/

theorem quiet_readFamily (spec : FamilySpec) :
    (s.readFamily spec : Act β (Option (List Snapshot))).Quiet := by
  refine (Act.quiet_readCounters _).bind ?_
  intro a
  cases a with
  | ok snapshots => exact Act.quiet_pure _
  | error e =>
    refine (Act.quiet_log _ _ _).bind ?_
    intro _
    exact Act.quiet_pure _

theorem quiet_firstReads (families : List FamilySpec) :
    (s.firstReads families : Act β (List (FamilySpec × Option (List Snapshot)))).Quiet := by
  induction families with
  | nil => exact Act.quiet_pure _
  | cons spec rest ih =>
    have hrest : ∀ first, (do
        let others ← s.firstReads rest
        return (spec, first) :: others : Act β _).Quiet := by
      intro first
      refine ih.bind ?_
      intro others
      exact Act.quiet_pure _
    rw [firstReads]
    cases spec.cadence with
    | cumulative => exact (s.quiet_readFamily spec).bind hrest
    | instantaneous => exact (Act.quiet_pure none).bind hrest

theorem quiet_rowsOf (spec : FamilySpec) (first : Option (List Snapshot)) :
    (s.rowsOf spec first : Act β (Option (List Row))).Quiet := by
  unfold rowsOf
  cases spec.cadence with
  | instantaneous =>
    refine (s.quiet_readFamily spec).bind ?_
    intro last
    exact Act.quiet_pure _
  | cumulative =>
    cases first with
    | none => exact Act.quiet_pure _
    | some before =>
      refine (s.quiet_readFamily spec).bind ?_
      intro after
      cases after with
      | none => exact Act.quiet_pure _
      | some after =>
        refine (Act.quiet_say _).bind ?_
        intro _
        exact Act.quiet_pure _

theorem quiet_lastReads (firsts : List (FamilySpec × Option (List Snapshot))) :
    (s.lastReads firsts : Act β (List FamilyRows)).Quiet := by
  induction firsts with
  | nil => exact Act.quiet_pure _
  | cons first rest ih =>
    refine (s.quiet_rowsOf first.1 first.2).bind ?_
    intro rows
    cases rows with
    | none => exact ih
    | some rows =>
      refine (Act.quiet_log _ _ _).bind ?_
      intro _
      refine ih.bind ?_
      intro others
      exact Act.quiet_pure _

theorem quiet_sample : (s.sample : Act β (List FamilyRows)).Quiet := by
  refine (s.quiet_firstReads s.families).bind ?_
  intro firsts
  have hwait : (s.waitWindow : Act β Unit).Quiet :=
    (Act.quiet_log _ _ _).bind fun _ => Act.quiet_pause _
  dsimp only
  split
  · refine hwait.bind ?_
    intro _
    exact s.quiet_lastReads firsts
  · exact s.quiet_lastReads firsts

/-! ### Recording -/

variable [Backend β] [LawfulBackend β]

/-- Deeds that send nothing and leave the store with the rows behind its own that it took. -/
structure Gathers (sc t : Scene β) (es : List Effect) : Prop where
  silent : exchanges es = []
  contents : t.store.contents = sc.store.contents ++ storedRows es

theorem gathers_of_quiet {sc t : Scene β} {es : List Effect} (ht : t.store = sc.store)
    (hx : exchanges es = []) (hr : recordings es = []) : Gathers sc t es where
  silent := hx
  contents := by
    rw [ht, storedRows, hr]
    exact (List.append_nil _).symm

theorem Gathers.append {sc t u : Scene β} {es es' : List Effect} (h : Gathers sc t es)
    (h' : Gathers t u es') : Gathers sc u (es ++ es') where
  silent := by
    rw [exchanges_append, h.silent, h'.silent, List.append_nil]
  contents := by
    rw [h'.contents, h.contents, storedRows_append, List.append_assoc]

theorem recordRows_meets (rows : List Row) (w : Surroundings) (sc : Scene β) :
    (recordRows rows).Meets w sc fun r es t => Gathers sc t es ∧
      ∀ n, r = .ok n → (recordings es).map (·.1) = rows ∧ n = (storedRows es).length := by
  induction rows generalizing sc with
  | nil =>
    rw [recordRows, Act.meets_pure]
    refine ⟨gathers_of_quiet rfl rfl rfl, ?_⟩
    intro n heq
    cases heq
    exact ⟨rfl, rfl⟩
  | cons row rows ih =>
    rw [recordRows]
    refine (Act.meets_record row).bind ?_ ?_
    · intro answer es t hout
      obtain ⟨_, ⟨⟩, hx, hrec, hc⟩ := hout
      have hfirst : Gathers sc t es := ⟨hx, hc⟩
      have hstored : storedRows es = [(row, answer)].filterMap Recording.stored? := by
        rw [storedRows, hrec]
      cases answer with
      | brokeOff message =>
        dsimp only
        rw [Act.meets_exit, List.append_nil]
        refine ⟨hfirst, ?_⟩
        intro n heq
        cases heq
      | dropped =>
        refine (ih t).mono ?_
        intro r es' t' hout
        obtain ⟨hrest, hn⟩ := hout
        refine ⟨hfirst.append hrest, ?_⟩
        intro n hr
        obtain ⟨hrows, hlen⟩ := hn n hr
        refine ⟨?_, ?_⟩
        · rw [recordings_append, hrec, List.map_append, hrows]
          rfl
        · rw [storedRows_append, hstored, hlen]
          rfl
      | stored =>
        refine (ih t).bind ?_ ?_
        · intro n es' t' hout
          obtain ⟨hrest, hn⟩ := hout
          obtain ⟨hrows, hlen⟩ := hn n rfl
          rw [Act.meets_pure, List.append_nil]
          refine ⟨hfirst.append hrest, ?_⟩
          intro m heq
          cases heq
          refine ⟨?_, ?_⟩
          · rw [recordings_append, hrec, List.map_append, hrows]
            rfl
          · rw [storedRows_append, hstored, hlen, List.length_append, Nat.add_comm]
            rfl
        · intro e es' t' hout
          refine ⟨hfirst.append hout.1, ?_⟩
          intro n heq
          cases heq
    · intro e es t hout
      obtain ⟨_, ⟨⟩, -⟩ := hout

/-- A pass gives what it sampled to the store. -/
theorem collect_meets (w : Surroundings) (sc : Scene β) :
    s.collect.Meets w sc fun r es t => Gathers sc t es ∧
      ∀ n, r = .ok n → n = (storedRows es).length ∧ ∃ sampled,
        (s.sample w sc).result = .ok sampled ∧
          (recordings es).map (·.1) = sampled.flatMap (·.rows) := by
  rw [collect]
  -- What is sampled is named before its scene is left.
  have hsample : s.sample.Meets w sc fun r es t => (s.sample w sc).result = r ∧
      t.store = sc.store ∧ exchanges es = [] ∧ recordings es = [] :=
    ⟨rfl, s.quiet_sample w sc⟩
  refine hsample.bind ?_ ?_
  · intro sampled es t hout
    obtain ⟨hs, ht, hx, hr⟩ := hout
    have hfirst : Gathers sc t es := gathers_of_quiet ht hx hr
    refine (recordRows_meets (sampled.flatMap (·.rows)) w t).bind ?_ ?_
    · intro n es' t' hout
      obtain ⟨hrest, hn⟩ := hout
      obtain ⟨hrec, hlen⟩ := hn n rfl
      rw [Act.meets_log_bind, Act.meets_pure, List.append_nil]
      refine ⟨hfirst.append hrest, ?_⟩
      intro m heq
      cases heq
      have hboth : recordings (es ++ es') = recordings es' := by
        rw [recordings_append, hr, List.nil_append]
      refine ⟨?_, sampled, hs, ?_⟩
      · rw [hlen, storedRows, storedRows, hboth]
      · rw [hboth, hrec]
    · intro e es' t' hout
      refine ⟨hfirst.append hout.1, ?_⟩
      intro n heq
      cases heq
  · intro e es t hout
    obtain ⟨-, ht, hx, hr⟩ := hout
    refine ⟨gathers_of_quiet ht hx hr, ?_⟩
    intro n heq
    cases heq

end Sampling

end HostTelemetry
