import HostTelemetry.Effect

/-!
# Reasoning about computations

The deeds of a computation are its effects without the log lines. The deeds of a sequence are those
of its parts, one part after the other, so a property of a whole follows from properties of the
parts over the scenes that they meet. A part that only speaks, or only uses the store, has no deeds
and is stepped over.
-/

namespace HostTelemetry

/-! ### Deeds -/

def Effect.isDeed : Effect → Bool
  | .logged _ => false
  | _ => true

/-- What was done, without what was said. -/
def deeds (l : List Effect) : List Effect := l.filter Effect.isDeed

@[simp] theorem deeds_append (a b : List Effect) : deeds (a ++ b) = deeds a ++ deeds b :=
  List.filter_append ..

@[simp] theorem deeds_logged (events : List Event) : deeds (events.map .logged) = [] := by
  induction events with
  | nil => rfl
  | cons e events ih =>
    rw [List.map_cons, deeds, List.filter_cons_of_neg (by simp [Effect.isDeed])]
    exact ih

/-- A request and its answer, or none if the agent was stopped before it came. -/
abbrev Exchange := Request × Option Answer

def Effect.exchange? : Effect → Option Exchange
  | .sent r answer => some (r, answer)
  | _ => none

/-- The requests that were sent, with their answers. -/
def exchanges (l : List Effect) : List Exchange := l.filterMap Effect.exchange?

@[simp] theorem exchanges_append (a b : List Effect) :
    exchanges (a ++ b) = exchanges a ++ exchanges b := List.filterMap_append

@[simp] theorem exchanges_deeds (l : List Effect) : exchanges (deeds l) = exchanges l := by
  rw [exchanges, deeds, List.filterMap_filter]
  congr 1
  funext e
  cases e <;> rfl

abbrev Recording := Row × RecordAnswer

def Effect.recording? : Effect → Option Recording
  | .recorded row answer => some (row, answer)
  | _ => none

/-- The rows that were given to the store, stored or not. -/
def recordings (l : List Effect) : List Recording := l.filterMap Effect.recording?

@[simp] theorem recordings_append (a b : List Effect) :
    recordings (a ++ b) = recordings a ++ recordings b := List.filterMap_append

@[simp] theorem recordings_deeds (l : List Effect) : recordings (deeds l) = recordings l := by
  rw [recordings, deeds, List.filterMap_filter]
  congr 1
  funext e
  cases e <;> rfl

def Recording.stored? (r : Recording) : Option Row := if r.2 = .stored then some r.1 else none

/-- The rows that went into the store. -/
def storedRows (l : List Effect) : List Row := (recordings l).filterMap Recording.stored?

@[simp] theorem storedRows_append (a b : List Effect) :
    storedRows (a ++ b) = storedRows a ++ storedRows b := by
  simp [storedRows, List.filterMap_append]

@[simp] theorem storedRows_deeds (l : List Effect) : storedRows (deeds l) = storedRows l := by
  rw [storedRows, recordings_deeds, storedRows]

namespace Act

variable {β α γ : Type}

/-! ### Properties of outcomes -/

/-- A property of a result, of the deeds that led to it and of the scene they left. -/
abbrev Post (β α : Type) := Except Exit α → List Effect → Scene β → Prop

/-- A computation has an outcome with a property. -/
def Meets (x : Act β α) (w : Surroundings) (s : Scene β) (Q : Post β α) : Prop :=
  Q (x w s).result (deeds (x w s).effects) (x w s).scene

variable {w : Surroundings} {s : Scene β} {x : Act β α} {f : α → Act β γ}

theorem Meets.mono {P Q : Post β α} (h : x.Meets w s P)
    (hpq : ∀ r es t, P r es t → Q r es t) : x.Meets w s Q :=
  hpq _ _ _ h

theorem Meets.and {P Q : Post β α} (hp : x.Meets w s P) (hq : x.Meets w s Q) :
    x.Meets w s fun r es t => P r es t ∧ Q r es t :=
  ⟨hp, hq⟩

/-- The second part starts where the first ends, and follows its deeds by its own. -/
theorem Meets.bind {P : Post β α} {Q : Post β γ} (hx : x.Meets w s P)
    (hok : ∀ a es t, P (.ok a) es t → (f a).Meets w t fun r es' t' => Q r (es ++ es') t')
    (herr : ∀ e es t, P (.error e) es t → Q (.error e) es t) : (x >>= f).Meets w s Q := by
  unfold Meets at hx
  rcases hr : (x w s).result with e | a
  · rw [hr] at hx
    simpa only [Meets, bind_apply, Outcome.andThen, hr] using herr e _ _ hx
  · rw [hr] at hx
    simpa only [Meets, bind_apply, Outcome.andThen, hr, deeds_append] using hok a _ _ hx

theorem meets_pure (a : α) (Q : Post β α) :
    (pure a : Act β α).Meets w s Q ↔ Q (.ok a) [] s := Iff.rfl

theorem meets_exit (e : Exit) (Q : Post β α) :
    (exit e : Act β α).Meets w s Q ↔ Q (.error e) [] s := Iff.rfl

theorem meets_say_bind (events : List Event) (f : Unit → Act β γ) (Q : Post β γ) :
    (say events >>= f).Meets w s Q ↔ (f ()).Meets w s Q := by
  simp [Meets, bind_apply, Outcome.andThen, say]

theorem meets_log_bind (level : Level) (speaker : Speaker) (message : String)
    (f : Unit → Act β γ) (Q : Post β γ) :
    (log level speaker message >>= f).Meets w s Q ↔ (f ()).Meets w s Q :=
  meets_say_bind ..

theorem meets_log (level : Level) (speaker : Speaker) (message : String) (Q : Post β Unit) :
    (log level speaker message).Meets w s Q ↔ Q (.ok ()) [] s := by
  simp [Meets, log, say, deeds, Effect.isDeed]

theorem meets_useStore_bind (g : Store β → StoreReply β α) (Q : Post β γ) :
    (useStore g >>= f).Meets w s Q ↔
      (f (g s.store).answer).Meets w { s with store := (g s.store).store } Q := by
  simp [Meets, bind_apply, Outcome.andThen, useStore]

/-! ### Points at which a computation may stop -/

theorem meets_pause (d : Duration) : (pause d : Act β Unit).Meets w s fun r es t =>
    t.store = s.store ∧ exchanges es = [] ∧ recordings es = [] ∧
      (r = .ok () ∨ r = .error .stopped ∧ ∃ p, w.stops p = true) := by
  unfold Meets pause
  dsimp only
  split
  · next h => exact ⟨rfl, rfl, rfl, .inr ⟨rfl, _, h⟩⟩
  · exact ⟨rfl, rfl, rfl, .inl rfl⟩

theorem meets_checkpoint : (checkpoint : Act β Unit).Meets w s fun r es t =>
    t.store = s.store ∧ exchanges es = [] ∧ recordings es = [] ∧
      (r = .ok () ∧ es = [] ∨ r = .error .stopped ∧ ∃ p, w.stops p = true) := by
  unfold Meets checkpoint
  dsimp only
  split
  · next h => exact ⟨rfl, rfl, rfl, .inr ⟨rfl, _, h⟩⟩
  · exact ⟨rfl, rfl, rfl, .inl ⟨rfl, rfl⟩⟩

theorem meets_send (q : Request) : (send q : Act β Answer).Meets w s fun r es t =>
    t.store = s.store ∧ recordings es = [] ∧
      ((∃ a, r = .ok a ∧ exchanges es = [(q, some a)]) ∨
        r = .error .stopped ∧ exchanges es = [(q, none)] ∧ ∃ p, w.stops p = true) := by
  unfold Meets send
  dsimp only
  split
  · next h => exact ⟨rfl, rfl, .inr ⟨rfl, rfl, _, h⟩⟩
  · exact ⟨rfl, rfl, .inl ⟨_, rfl, rfl⟩⟩

theorem meets_nextRound : (nextRound : Act β (Option Time)).Meets w s fun r es t =>
    t.store = s.store ∧ exchanges es = [] ∧ recordings es = [] ∧ ∃ start, r = .ok start := by
  unfold Meets nextRound
  dsimp only
  split
  · exact ⟨rfl, rfl, rfl, _, rfl⟩
  · exact ⟨rfl, rfl, rfl, _, rfl⟩

theorem Meets.unlessStopped {P : Post β α} {Q : Post β (Option α)} (hx : x.Meets w s P)
    (hok : ∀ a es t, P (.ok a) es t → Q (.ok (some a)) es t)
    (hstopped : ∀ es t, P (.error .stopped) es t → Q (.ok none) es t)
    (hbroke : ∀ m es t, P (.error (.brokeOff m)) es t → Q (.error (.brokeOff m)) es t) :
    (unlessStopped x).Meets w s Q := by
  unfold Meets at hx ⊢
  unfold Act.unlessStopped
  dsimp only
  split
  · next a ha =>
    rw [ha] at hx
    exact hok a _ _ hx
  · next ha =>
    rw [ha] at hx
    exact hstopped _ _ hx
  · next e hne ha =>
    rw [ha] at hx
    cases e with
    | stopped => exact absurd rfl hne
    | brokeOff m => exact hbroke m _ _ hx

end Act

end HostTelemetry
