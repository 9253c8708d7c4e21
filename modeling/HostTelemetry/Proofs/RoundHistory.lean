import HostTelemetry.Proofs.RoundCourse
import Mathlib.Data.List.Perm.Subperm

/-!
# Rounds one after the other

A history is any number of rounds over one store: rounds that are called one by one, each with its
own surroundings, and rounds that may be given up and are discarded then. Between any two of them
the store is settled, and no round ships what another one recorded.
-/

namespace HostTelemetry

/-- A round in retrospect; one that was given up has no result. -/
structure RoundLog where
  start : Time
  effects : List Effect
  result : Option (Except RoundError RoundReport)

namespace Collector

variable {β : Type} [Backend β]

/-- The rounds that may lead from one store to another. -/
inductive History (c : Collector) (st : Store β) : List RoundLog → Store β → Prop
  | start : History c st [] st
  | called {logs : List RoundLog} {st' : Store β} {start : Time} {w : Surroundings} {p : Progress}
      {result : Except RoundError RoundReport} : History c st logs st' →
      (c.round start w ⟨st', p⟩).result = .ok result →
      History c st (logs ++ [⟨start, (c.round start w ⟨st', p⟩).effects, some result⟩])
        (c.round start w ⟨st', p⟩).scene.store
  | attended {logs : List RoundLog} {st' : Store β} {start : Time} {w : Surroundings}
      {p : Progress} {result : Option (Except RoundError RoundReport)} : History c st logs st' →
      (c.interruptible start w ⟨st', p⟩).result = .ok result →
      History c st (logs ++ [⟨start, (c.interruptible start w ⟨st', p⟩).effects, result⟩])
        (c.interruptible start w ⟨st', p⟩).scene.store

/-! ### Runs are histories -/

theorem rounds_history (c : Collector) (st : Store β) (most : Nat) (w : Surroundings)
    (s : Scene β) (logs : List RoundLog) (h : c.History st logs s.store) :
    (c.rounds most).Meets w s fun r es t => r = .ok () → ∃ logs',
      c.History st (logs ++ logs') t.store ∧
        exchanges es = logs'.flatMap (fun log => exchanges log.effects) ∧
        recordings es = logs'.flatMap (fun log => recordings log.effects) := by
  induction most generalizing s logs with
  | zero =>
    rw [rounds, Act.meets_pure]
    intro _
    refine ⟨[], ?_, rfl, rfl⟩
    rwa [List.append_nil]
  | succ most ih =>
    rw [rounds]
    refine Act.meets_nextRound.bind ?_ ?_
    · intro start es t hout
      obtain ⟨ht, hx, hr, -⟩ := hout
      cases start with
      | none =>
        dsimp only
        rw [Act.meets_pure, List.append_nil]
        intro _
        refine ⟨[], ?_, hx, hr⟩
        rw [List.append_nil, ht]
        exact h
      | some start =>
        dsimp only
        rw [Act.meets_say_bind]
        -- The round is the next one of the history, whatever it did.
        have hround : (c.interruptible start).Meets w t fun r es' t' =>
            ∀ result, r = .ok result → ∃ log : RoundLog, es' = deeds log.effects ∧
              c.History st (logs ++ [log]) t'.store := by
          intro result hresult
          refine ⟨⟨start, (c.interruptible start w t).effects, result⟩, rfl, ?_⟩
          rw [← ht] at h
          exact h.attended hresult
        refine hround.bind ?_ ?_
        · intro result es' t' hlog
          obtain ⟨log, rfl, hist⟩ := hlog result rfl
          cases result with
          | none =>
            dsimp only
            rw [Act.meets_pure, List.append_nil]
            intro _
            refine ⟨[log], hist, ?_, ?_⟩
            · rw [exchanges_append, hx, exchanges_deeds, List.nil_append, List.flatMap_singleton]
            · rw [recordings_append, hr, recordings_deeds, List.nil_append,
                List.flatMap_singleton]
          | some result =>
            dsimp only
            rw [Act.meets_say_bind]
            refine (ih t' (logs ++ [log]) hist).mono ?_
            intro r es'' t'' hrest hok
            obtain ⟨logs', hist', hx', hr'⟩ := hrest hok
            refine ⟨log :: logs', ?_, ?_, ?_⟩
            · rwa [List.append_assoc, List.singleton_append] at hist'
            · rw [exchanges_append, exchanges_append, hx, exchanges_deeds, hx',
                List.nil_append, List.flatMap_cons]
            · rw [recordings_append, recordings_append, hr, recordings_deeds, hr',
                List.nil_append, List.flatMap_cons]
        · intro e es' t' _ heq
          cases heq
    · intro e es t hout
      obtain ⟨-, -, -, start, ⟨⟩⟩ := hout

theorem run_history (c : Collector) (st : Store β) (most : Nat) (w : Surroundings)
    (s : Scene β) (logs : List RoundLog) (h : c.History st logs s.store) :
    (c.run most).Meets w s fun r es t => r = .ok () → ∃ logs',
      c.History st (logs ++ logs') t.store ∧
        exchanges es = logs'.flatMap (fun log => exchanges log.effects) ∧
        recordings es = logs'.flatMap (fun log => recordings log.effects) := by
  rw [run]
  refine (c.rounds_history st most w s logs h).bind ?_ ?_
  · intro _ es t hrest
    rw [Act.meets_log, List.append_nil]
    exact hrest
  · intro e es t _ heq
    cases heq

variable [LawfulBackend β] {c : Collector} {st st' : Store β} {logs : List RoundLog}

/-! ### The invariant -/

/-- One round after another keeps the store settled and the rounds apart. -/
theorem History.inv (h : c.History st logs st') (hst : st.Settled) :
    st'.Settled ∧ ∀ log ∈ logs, c.Apart log.start log.result (deeds log.effects) := by
  induction h with
  | start =>
    refine ⟨hst, ?_⟩
    intro log hlog
    cases hlog
  | @called logs st' start w p result _ hr ih =>
    obtain ⟨hapart, hsettled⟩ := c.round_apart start w ⟨st', p⟩ ih.1 result hr
    refine ⟨hsettled, ?_⟩
    intro log hlog
    rcases List.mem_append.1 hlog with hlog | hlog
    · exact ih.2 log hlog
    · rw [List.mem_singleton.1 hlog]
      exact hapart
  | @attended logs st' start w p result _ hr ih =>
    obtain ⟨hapart, hsettled⟩ := c.interruptible_apart start w ⟨st', p⟩ ih.1 result hr
    refine ⟨hsettled, ?_⟩
    intro log hlog
    rcases List.mem_append.1 hlog with hlog | hlog
    · exact ih.2 log hlog
    · rw [List.mem_singleton.1 hlog]
      exact hapart

/-! ### Rounds are kept apart -/

/-- Rounds of which none ships what another one recorded. -/
structure Separate (c : Collector) (logs : List RoundLog) : Prop where
  unmixed : ∀ log ∈ logs, c.flusher.Unmixed log.start.epochMillis (storedRows log.effects)
    (exchanges log.effects)
  idle : ∀ log ∈ logs, ∀ e, log.result = some (.error (.skipped e)) → deeds log.effects = []
  /-- Over all rounds, the receiver took every recorded row at most once. -/
  once : ∃ parts : List (List Row),
    parts.flatten.Subperm (logs.flatMap fun log => storedRows log.effects) ∧
    List.Forall₂ (fun part text => ∃ log ∈ logs, ∃ body : Wire.Body, text = body.text ∧
        c.flusher.Holds log.start.epochMillis part body)
      parts (takenBodies (logs.flatMap fun log => exchanges log.effects))

/-- Rows that are taken at most once in each round are taken at most once in all of them. -/
theorem once_of_unmixed (c : Collector) (logs : List RoundLog)
    (h : ∀ log ∈ logs, c.flusher.Unmixed log.start.epochMillis (storedRows log.effects)
      (exchanges log.effects)) :
    ∃ parts : List (List Row),
      parts.flatten.Subperm (logs.flatMap fun log => storedRows log.effects) ∧
      List.Forall₂ (fun part text => ∃ log ∈ logs, ∃ body : Wire.Body, text = body.text ∧
          c.flusher.Holds log.start.epochMillis part body)
        parts (takenBodies (logs.flatMap fun log => exchanges log.effects)) := by
  induction logs with
  | nil => exact ⟨[], List.nil_subperm, .nil⟩
  | cons log logs ih =>
    obtain ⟨parts, hsub, hparts⟩ := (h log (List.mem_cons_self ..)).taken
    obtain ⟨parts', hsub', hparts'⟩ := ih fun l hl => h l (List.mem_cons_of_mem log hl)
    refine ⟨parts ++ parts', ?_, ?_⟩
    · rw [List.flatten_append, List.flatMap_cons]
      exact List.Subperm.append hsub hsub'
    · rw [List.flatMap_cons, takenBodies_append]
      refine List.rel_append (hparts.imp ?_) (hparts'.imp ?_)
      · intro part text hout
        obtain ⟨body, htext, hbody⟩ := hout
        exact ⟨log, List.mem_cons_self .., body, htext, hbody⟩
      · intro part text hout
        obtain ⟨l, hl, body, htext, hbody⟩ := hout
        exact ⟨l, List.mem_cons_of_mem log hl, body, htext, hbody⟩

theorem History.separate (h : c.History st logs st') (hst : st.Settled) : c.Separate logs := by
  have hapart := (h.inv hst).2
  have hunmixed : ∀ log ∈ logs, c.flusher.Unmixed log.start.epochMillis (storedRows log.effects)
      (exchanges log.effects) := by
    intro log hlog
    have hu := (hapart log hlog).unmixed
    rwa [storedRows_deeds, exchanges_deeds] at hu
  exact ⟨hunmixed, fun log hlog => (hapart log hlog).idle, c.once_of_unmixed logs hunmixed⟩

/-- From an empty store on, rounds are never mixed, and the store is settled after each of them and
after a whole run, which is a history too. -/
theorem rounds_never_mix (c : Collector) (st : Store β) (hempty : st.contents = [])
    (logs : List RoundLog) (st' : Store β) (h : c.History st logs st') :
    c.Separate logs ∧ st'.Settled ∧
      ∀ (most : Nat) (w : Surroundings) (p : Progress),
        (c.run most w ⟨st', p⟩).result = .ok () → ∃ logs',
          exchanges (c.run most w ⟨st', p⟩).effects =
            logs'.flatMap (fun log => exchanges log.effects) ∧
          recordings (c.run most w ⟨st', p⟩).effects =
            logs'.flatMap (fun log => recordings log.effects) ∧
          c.Separate (logs ++ logs') ∧ (c.run most w ⟨st', p⟩).scene.store.Settled := by
  have hst : st.Settled := .inl hempty
  refine ⟨h.separate hst, (h.inv hst).1, ?_⟩
  intro most w p hr
  obtain ⟨logs', hist, hx, hrec⟩ := c.run_history st most w ⟨st', p⟩ logs h hr
  rw [exchanges_deeds] at hx
  rw [recordings_deeds] at hrec
  exact ⟨logs', hx, hrec, hist.separate hst, (hist.inv hst).1⟩

/-! ### Rounds over a store that cannot be cleared at first -/

def small : Collector := ⟨⟨[memorySpec], .zero, false⟩, Flusher.small⟩

/-- A store that four times fails to be cleared. -/
def stuckStore : Store FaultyBackend := { backend := { refusedResets := 4 } }

def afterRound (st : Store FaultyBackend) : Store FaultyBackend :=
  (small.round ⟨0⟩ Flusher.smallWorld ⟨st, {}⟩).scene.store

theorem history_afterRound {st st' : Store FaultyBackend} {logs : List RoundLog}
    {result : Except RoundError RoundReport} (h : small.History st logs st')
    (hr : (small.round ⟨0⟩ Flusher.smallWorld ⟨st', {}⟩).result = .ok result) :
    ∃ log, log.result = some result ∧ small.History st (logs ++ [log]) (afterRound st') :=
  ⟨_, rfl, h.called hr⟩

theorem history_stuck : ∃ delivered skipped,
    small.History stuckStore [delivered, skipped] (afterRound (afterRound stuckStore)) ∧
      delivered.result = some (.ok ⟨1, 1, 1⟩) ∧
      skipped.result = some (.error (.skipped (.clearFailed 4))) := by
  have hfirst : (small.round ⟨0⟩ Flusher.smallWorld ⟨stuckStore, {}⟩).result =
      .ok (.ok ⟨1, 1, 1⟩) := by decide +kernel
  have hsecond : (small.round ⟨0⟩ Flusher.smallWorld ⟨afterRound stuckStore, {}⟩).result =
      .ok (.error (.skipped (.clearFailed 4))) := by decide +kernel
  obtain ⟨delivered, hd, hist⟩ := history_afterRound .start hfirst
  obtain ⟨skipped, hs, hist'⟩ := history_afterRound hist hsecond
  exact ⟨delivered, skipped, hist', hd, hs⟩

theorem rounds_never_mix_stuck : ∃ delivered skipped, small.Separate [delivered, skipped] ∧
    delivered.result = some (.ok ⟨1, 1, 1⟩) ∧
    skipped.result = some (.error (.skipped (.clearFailed 4))) ∧
    (afterRound (afterRound stuckStore)).Settled ∧
    (small.run 1 Flusher.smallWorld ⟨afterRound (afterRound stuckStore), {}⟩).scene.store.Settled := by
  obtain ⟨delivered, skipped, h, hd, hs⟩ := history_stuck
  obtain ⟨hseparate, hsettled, hrun⟩ := rounds_never_mix small stuckStore rfl _ _ h
  have hr : (small.run 1 Flusher.smallWorld ⟨afterRound (afterRound stuckStore), {}⟩).result =
      .ok () := by decide +kernel
  obtain ⟨logs, -, -, -, hlast⟩ := hrun 1 Flusher.smallWorld {} hr
  exact ⟨delivered, skipped, hseparate, hd, hs, hsettled, hlast⟩

/-! ### A round delivers what it sampled -/

/-- A round that reports success has given everything that it sampled to the store, and everything
that the store took to the receiver. -/
structure Delivers (c : Collector) (start : Time) (w : Surroundings) (s : Scene β)
    (es : List Effect) (report : RoundReport) (sampled : List FamilyRows)
    (bodies : List Wire.Body) : Prop where
  pass : (c.sampling.sample w { s with store := s.store.beginRound.store }).result = .ok sampled
  recorded : (recordings es).map (·.1) = sampled.flatMap (·.rows)
  records : report.records = (storedRows es).length
  points : report.points = (storedRows es).length
  chunks : report.chunks = bodies.length
  taken : takenBodies (exchanges es) = bodies.map Wire.Body.text
  covers : c.flusher.Covers start.epochMillis (storedRows es) bodies
  once : (byInstance (storedRows es)).Perm (storedRows es)

omit [LawfulBackend β] in
theorem Delivers.of_deeds {start : Time} {w : Surroundings} {s : Scene β} {es : List Effect}
    {report : RoundReport} {sampled : List FamilyRows} {bodies : List Wire.Body}
    (h : c.Delivers start w s (deeds es) report sampled bodies) :
    c.Delivers start w s es report sampled bodies := by
  obtain ⟨hpass, hrecorded, hrecords, hpoints, hchunks, htaken, hcovers, honce⟩ := h
  rw [recordings_deeds] at hrecorded
  rw [exchanges_deeds] at htaken
  rw [storedRows_deeds] at hrecords hpoints hcovers honce
  exact ⟨hpass, hrecorded, hrecords, hpoints, hchunks, htaken, hcovers, honce⟩

theorem Course.delivers {s t : Scene β} {start : Time} {w : Surroundings} {es : List Effect}
    {report : RoundReport} (h : c.Course start w s (.ok (.ok report)) es t) :
    ∃ sampled bodies, c.Delivers start w s es report sampled bodies := by
  generalize hr : (Except.ok (Except.ok report) : Except Exit (Except RoundError RoundReport)) = r
    at h
  cases h with
  | skipped e _ => cases hr
  | broken e _ => cases hr
  | @shipped es t records _ shipped hrec hcourse _ =>
    rcases shipped with e | e | flushed
    · cases hr
    · cases hr
    · cases hr
      obtain ⟨hlen, sampled, hsampled, hrows⟩ := hrec
      obtain ⟨htaken, hchunks, hpoints, -⟩ := hcourse.all
      refine ⟨sampled, c.flusher.bodies start.epochMillis (storedRows es), ?_⟩
      constructor
      · exact hsampled
      · exact hrows
      · exact hlen
      · rw [hpoints, (c.flusher.perm_groups (storedRows es)).length_eq]
        exact Nat.zero_add _
      · rw [hchunks, Flusher.bodies, List.length_map]
        exact Nat.zero_add _
      · rw [htaken, c.flusher.text_bodies]
      · exact c.flusher.bodies_covers ..
      · exact perm_byInstance _

/-- After any history, a round that succeeds delivers exactly what it sampled and the store took,
and one that fails to ship leaves the store settled. -/
theorem round_delivers_sampled (c : Collector) (st : Store β) (hempty : st.contents = [])
    (logs : List RoundLog) (st' : Store β) (h : c.History st logs st') (start : Time)
    (w : Surroundings) (p : Progress) :
    (∀ report, (c.round start w ⟨st', p⟩).result = .ok (.ok report) →
      ∃ sampled bodies,
        c.Delivers start w ⟨st', p⟩ (c.round start w ⟨st', p⟩).effects report sampled bodies) ∧
    ∀ e, (c.round start w ⟨st', p⟩).result = .ok (.error (.shipping e)) →
      (c.round start w ⟨st', p⟩).scene.store.Settled := by
  have hst' : st'.Settled := (h.inv (.inl hempty)).1
  have hcourse := c.round_meets start w ⟨st', p⟩ hst'
  unfold Act.Meets at hcourse
  refine ⟨?_, ?_⟩
  · intro report hr
    rw [hr] at hcourse
    obtain ⟨sampled, bodies, hd⟩ := hcourse.delivers
    exact ⟨sampled, bodies, hd.of_deeds⟩
  · intro e hr
    rw [hr] at hcourse
    exact hcourse.settled

/-- A receiver that refuses everything. -/
def unwilling : Surroundings :=
  { Flusher.smallWorld with answer := fun _ => .response ⟨⟨400⟩, ""⟩ }

theorem round_delivers_sampled_stuck :
    (∃ sampled bodies,
      small.Delivers ⟨0⟩ Flusher.smallWorld ⟨afterRound (afterRound stuckStore), {}⟩
        (small.round ⟨0⟩ Flusher.smallWorld ⟨afterRound (afterRound stuckStore), {}⟩).effects
        ⟨1, 1, 1⟩ sampled bodies) ∧
    (small.round ⟨0⟩ unwilling
      ⟨afterRound (afterRound stuckStore), {}⟩).scene.store.Settled := by
  obtain ⟨delivered, skipped, h, -, -⟩ := history_stuck
  have hr : (small.round ⟨0⟩ Flusher.smallWorld ⟨afterRound (afterRound stuckStore), {}⟩).result =
      .ok (.ok ⟨1, 1, 1⟩) := by decide +kernel
  have hrefused : (small.round ⟨0⟩ unwilling ⟨afterRound (afterRound stuckStore), {}⟩).result =
      .ok (.error (.shipping (Link.rejected ⟨400⟩))) := by decide +kernel
  have hdelivers := round_delivers_sampled small stuckStore rfl _ _ h ⟨0⟩ Flusher.smallWorld {}
  have hsettles := round_delivers_sampled small stuckStore rfl _ _ h ⟨0⟩ unwilling {}
  exact ⟨hdelivers.1 _ hr, hsettles.2 _ hrefused⟩

end Collector

end HostTelemetry
