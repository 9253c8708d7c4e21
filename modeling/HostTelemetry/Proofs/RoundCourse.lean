import HostTelemetry.Proofs.Collecting
import HostTelemetry.Proofs.FlushCoverage
import HostTelemetry.Round

/-!
# The course of a round

A round that starts over a settled store either is skipped, with nothing done and the clear still
owed, or starts over an empty store, so that what it ships is what it recorded itself. However it
comes to its end, the store is settled again.
-/

namespace HostTelemetry.Collector

variable {β : Type}

/-- The result of a round that recorded some rows, by the result of its flush. -/
def roundResult (records : Nat) : Except Exit (Except ShippingError FlushReport) →
    Except Exit (Except RoundError RoundReport)
  | .error e => .error e
  | .ok (.error e) => .ok (.error (.shipping e))
  | .ok (.ok report) => .ok (.ok ⟨records, report.chunks, report.points⟩)

/-- Everything that was sampled was given to the store, which took a number of rows. -/
def Recorded (c : Collector) (w : Surroundings) (s : Scene β) (es : List Effect) (records : Nat) :
    Prop :=
  records = (storedRows es).length ∧ ∃ sampled, (c.sampling.sample w s).result = .ok sampled ∧
    (recordings es).map (·.1) = sampled.flatMap (·.rows)

theorem Recorded.append {c : Collector} {w : Surroundings} {s : Scene β} {es es' : List Effect}
    {records : Nat} (h : c.Recorded w s es records) (hr : recordings es' = []) :
    c.Recorded w s (es ++ es') records := by
  obtain ⟨hlen, sampled, hsampled, hrows⟩ := h
  have hboth : recordings (es ++ es') = recordings es := by
    rw [recordings_append, hr, List.append_nil]
  refine ⟨?_, sampled, hsampled, ?_⟩
  · rw [storedRows, hboth]
    exact hlen
  · rw [hboth]
    exact hrows

variable [Backend β] [LawfulBackend β]

/-- How a round may go over a settled store. -/
inductive Course (c : Collector) (start : Time) (w : Surroundings) (s : Scene β) :
    Except Exit (Except RoundError RoundReport) → List Effect → Scene β → Prop
  | skipped {t : Scene β} (e : StoreError) : t.store.Settled →
      Course c start w s (.ok (.error (.skipped e))) [] t
  | broken {es : List Effect} {t : Scene β} (e : Exit) : exchanges es = [] →
      Course c start w s (.error e) es t
  | shipped {es : List Effect} {t : Scene β} {records : Nat} {unreadable : Prop}
      {r : Except Exit (Except ShippingError FlushReport)} :
      c.Recorded w { s with store := s.store.beginRound.store } es records →
      c.flusher.Course start.epochMillis w unreadable (c.flusher.groups (storedRows es)) {}
        (exchanges es) r →
      ((∃ shipped, r = .ok shipped) → t.store.Settled) →
      Course c start w s (roundResult records r) es t

/-! ### What a course tells -/

/-- Whatever comes of a round, its requests carry rows that it recorded itself. -/
theorem Course.unmixed {c : Collector} {start : Time} {w : Surroundings} {s t : Scene β}
    {r : Except Exit (Except RoundError RoundReport)} {es : List Effect}
    (h : c.Course start w s r es t) :
    c.flusher.Unmixed start.epochMillis (storedRows es) (exchanges es) := by
  cases h with
  | skipped e _ => exact c.flusher.unmixed_nil ..
  | broken e hx =>
    rw [hx]
    exact c.flusher.unmixed_nil ..
  | shipped _ hcourse _ => exact hcourse.unmixed

theorem Course.settled {c : Collector} {start : Time} {w : Surroundings} {s t : Scene β}
    {result : Except RoundError RoundReport} {es : List Effect}
    (h : c.Course start w s (.ok result) es t) : t.store.Settled := by
  generalize hr : (Except.ok result : Except Exit (Except RoundError RoundReport)) = r at h
  cases h with
  | skipped e hs => exact hs
  | broken e _ => cases hr
  | @shipped _ _ records _ shipped _ _ hs =>
    rcases shipped with e | shipped
    · cases hr
    · exact hs ⟨shipped, rfl⟩

theorem Course.idle {c : Collector} {start : Time} {w : Surroundings} {s t : Scene β}
    {e : StoreError} {es : List Effect}
    (h : c.Course start w s (.ok (.error (.skipped e))) es t) : es = [] := by
  generalize hr : (Except.ok (Except.error (RoundError.skipped e)) :
    Except Exit (Except RoundError RoundReport)) = r at h
  cases h with
  | skipped e _ => rfl
  | broken e _ => cases hr
  | @shipped _ _ records _ shipped _ _ _ => rcases shipped with e | e | report <;> cases hr

/-! ### The parts of a round -/

theorem clearStore_meets (complaint : String) (w : Surroundings) (s : Scene β) :
    (clearStore complaint).Meets w s fun r es t => r = .ok () ∧ es = [] ∧ t.store.Settled := by
  unfold clearStore
  rw [Act.meets_useStore_bind]
  have hsettled := s.store.settled_clear
  cases s.store.clear.answer with
  | ok a => exact ⟨rfl, rfl, hsettled⟩
  | error e =>
    dsimp only
    rw [Act.meets_log]
    exact ⟨rfl, rfl, hsettled⟩

theorem discardRound_meets (w : Surroundings) (s : Scene β) :
    discardRound.Meets w s fun r es t => r = .ok () ∧ es = [] ∧ t.store.Settled := by
  unfold discardRound
  rw [Act.meets_log_bind]
  exact clearStore_meets _ w s

/-- A flush behind deeds that recorded what the store holds ships these rows and records nothing. -/
theorem flush_behind (c : Collector) (start : Time) (w : Surroundings) {t : Scene β}
    (es : List Effect) (hx : exchanges es = []) (hc : t.store.contents = storedRows es) :
    (c.flusher.flush start.epochMillis).Meets w t fun r es' _ => recordings es' = [] ∧
      c.flusher.Course start.epochMillis w (¬ReadsSucceed t.store.backend)
        (c.flusher.groups (storedRows (es ++ es'))) {} (exchanges (es ++ es')) r := by
  refine (c.flusher.flush_meets start.epochMillis w t).mono ?_
  intro r es' t' hout
  obtain ⟨-, hr, hcourse⟩ := hout
  have hstored : storedRows (es ++ es') = storedRows es := by
    rw [storedRows, recordings_append, hr, List.append_nil, storedRows]
  rw [hstored, exchanges_append, hx, List.nil_append, ← hc]
  exact ⟨hr, hcourse⟩

theorem round_meets (c : Collector) (start : Time) (w : Surroundings) (s : Scene β)
    (hs : s.store.Settled) :
    (c.round start).Meets w s fun r es t => c.Course start w s r es t := by
  unfold round
  rw [Act.meets_useStore_bind]
  rcases s.store.beginRound_cases hs with ⟨ha, hempty⟩ | ⟨⟨e, ha⟩, howed⟩
  · rw [ha]
    dsimp only
    refine (c.sampling.collect_meets w { s with store := s.store.beginRound.store }).bind ?_ ?_
    · intro records es t hout
      obtain ⟨⟨hx, hc⟩, hn⟩ := hout
      rw [hempty, List.nil_append] at hc
      have hrec : c.Recorded w { s with store := s.store.beginRound.store } es records :=
        hn records rfl
      refine (c.flush_behind start w es hx hc).bind ?_ ?_
      · intro shipped es' t' hout
        obtain ⟨hr, hcourse⟩ := hout
        refine (clearStore_meets _ w t').bind ?_ ?_
        · intro _ es'' t'' hout
          obtain ⟨-, rfl, hsettled⟩ := hout
          cases shipped with
          | error e =>
            dsimp only
            rw [Act.meets_pure, List.append_nil, List.append_nil]
            exact .shipped (hrec.append hr) hcourse fun _ => hsettled
          | ok report =>
            dsimp only
            rw [Act.meets_pure, List.append_nil, List.append_nil]
            exact .shipped (hrec.append hr) hcourse fun _ => hsettled
        · intro e es'' t'' hout
          obtain ⟨h, -⟩ := hout
          cases h
      · intro e es' t' hout
        obtain ⟨hr, hcourse⟩ := hout
        refine .shipped (hrec.append hr) hcourse ?_
        intro hok
        obtain ⟨shipped, heq⟩ := hok
        cases heq
    · intro e es t hout
      exact .broken e hout.1.silent
  · rw [ha]
    dsimp only
    rw [Act.meets_pure]
    exact .skipped e (.inr howed)

/-- What is known of a round that came to its end or was given up. -/
structure Apart (c : Collector) (start : Time) (result : Option (Except RoundError RoundReport))
    (es : List Effect) : Prop where
  unmixed : c.flusher.Unmixed start.epochMillis (storedRows es) (exchanges es)
  idle : ∀ e, result = some (.error (.skipped e)) → es = []

theorem round_apart (c : Collector) (start : Time) (w : Surroundings) (s : Scene β)
    (hs : s.store.Settled) :
    (c.round start).Meets w s fun r es t => ∀ result, r = .ok result →
      c.Apart start (some result) es ∧ t.store.Settled := by
  refine (c.round_meets start w s hs).mono ?_
  intro _ es t h result heq
  subst heq
  refine ⟨⟨h.unmixed, ?_⟩, h.settled⟩
  intro e heq
  cases heq
  exact h.idle

/-- What is known after a round that may have been stopped, before its rows are discarded. -/
def AfterGuard (c : Collector) (start : Time) :
    Act.Post β (Option (Except RoundError RoundReport))
  | .ok (some result), es, t => c.Apart start (some result) es ∧ t.store.Settled
  | .ok none, es, _ => c.flusher.Unmixed start.epochMillis (storedRows es) (exchanges es)
  | .error _, _, _ => True

theorem guarded_meets (c : Collector) (start : Time) (w : Surroundings) (s : Scene β)
    (hs : s.store.Settled) :
    (Act.unlessStopped (Act.checkpoint >>= fun _ => c.round start)).Meets w s
      (c.AfterGuard start) := by
  have hround : (Act.checkpoint >>= fun _ => c.round start).Meets w s fun r es t =>
      c.flusher.Unmixed start.epochMillis (storedRows es) (exchanges es) ∧
        ∀ result, r = .ok result → c.Apart start (some result) es ∧ t.store.Settled := by
    refine Act.meets_checkpoint.bind ?_ ?_
    · intro _ es t hout
      obtain ⟨ht, -, -, ⟨-, rfl⟩ | ⟨h, -⟩⟩ := hout
      · have hst : t.store.Settled := ht ▸ hs
        refine ((c.round_meets start w t hst).and (c.round_apart start w t hst)).mono ?_
        intro r es t' hout
        exact ⟨hout.1.unmixed, hout.2⟩
      · cases h
    · intro e es t hout
      obtain ⟨-, hx, -, -⟩ := hout
      rw [hx]
      refine ⟨c.flusher.unmixed_nil .., ?_⟩
      intro result heq
      cases heq
  refine hround.unlessStopped ?_ ?_ ?_
  · intro result es t hout
    exact hout.2 result rfl
  · intro es t hout
    exact hout.1
  · intro m es t _
    trivial

theorem interruptible_apart (c : Collector) (start : Time) (w : Surroundings) (s : Scene β)
    (hs : s.store.Settled) :
    (c.interruptible start).Meets w s fun r es t => ∀ result, r = .ok result →
      c.Apart start result es ∧ t.store.Settled := by
  unfold interruptible
  refine (c.guarded_meets start w s hs).bind ?_ ?_
  · intro given es t hout
    cases given with
    | none =>
      have hunmixed : c.flusher.Unmixed start.epochMillis (storedRows es) (exchanges es) := hout
      refine (discardRound_meets w t).bind ?_ ?_
      · intro _ es' t' hdiscard
        obtain ⟨-, rfl, hsettled⟩ := hdiscard
        rw [Act.meets_pure, List.append_nil, List.append_nil]
        intro result heq
        cases heq
        refine ⟨⟨hunmixed, ?_⟩, hsettled⟩
        intro e heq
        cases heq
      · intro e es' t' hdiscard
        obtain ⟨h, -⟩ := hdiscard
        cases h
    | some result =>
      dsimp only
      rw [Act.meets_pure, List.append_nil]
      intro result' heq
      cases heq
      exact hout
  · intro e es t _ result heq
    cases heq

end HostTelemetry.Collector
