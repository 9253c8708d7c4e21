import HostTelemetry.Delivery.Post
import HostTelemetry.Proofs.Outcome

/-!
# The course of a delivery

A delivery posts one body until an answer settles it or its attempts are used up. Its course says
which answers came and what the delivery made of them: every answer but the last was worth another
attempt, a success is the last one, and no attempt follows what settles the delivery.
-/

namespace HostTelemetry

/-- Whether the receiver took what it answers: the status is a 2xx. -/
def Answer.isSuccess : Answer → Bool
  | .response r => 200 ≤ r.status.code && r.status.code < 300
  | .failed _ => false

theorem Answer.isSuccess_response (r : Response) :
    (Answer.response r).isSuccess = r.status.isSuccess := rfl

def Exchange.isSuccess (x : Exchange) : Bool := x.2.any Answer.isSuccess

/-- The bodies that the receiver took, each as often as it did. -/
def takenBodies (l : List Exchange) : List String := (l.filter Exchange.isSuccess).map (·.1.body)

@[simp] theorem takenBodies_append (a b : List Exchange) :
    takenBodies (a ++ b) = takenBodies a ++ takenBodies b := by
  simp [takenBodies, List.filter_append]

def sentBodies (l : List Exchange) : List String := l.map (·.1.body)

namespace Link

variable {β : Type}

def request (l : Link) (body : String) : Request := ⟨l.endpoint, body⟩

/-! ### Verdicts -/

theorem isSuccess_of_delivered {a : Answer} {r : Response} (h : verdict a = .delivered r) :
    a.isSuccess = true := by
  cases a with
  | response r' =>
    by_cases hs : r'.status.isSuccess = true
    · exact hs
    · by_cases hr : r'.status.isRetryable = true <;> simp [verdict, hs, hr] at h
  | failed reason => cases h

theorem not_isSuccess_of_refused {a : Answer} {status : Status} (h : verdict a = .refused status) :
    a.isSuccess = false := by
  cases a with
  | response r =>
    by_cases hs : r.status.isSuccess = true
    · simp [verdict, hs] at h
    · simpa [Answer.isSuccess_response] using hs
  | failed reason => rfl

theorem not_isSuccess_of_failed {a : Answer} {status : Option Status}
    (h : verdict a = .failed status) : a.isSuccess = false := by
  cases a with
  | response r =>
    by_cases hs : r.status.isSuccess = true
    · simp [verdict, hs] at h
    · simpa [Answer.isSuccess_response] using hs
  | failed reason => rfl

theorem not_isSuccess_of_isRead {a : Answer} (h : a.isRead = true) : a.isSuccess = false := by
  cases a with
  | response r => simpa [Answer.isRead, Answer.isSuccess_response] using h
  | failed reason => rfl

/-! ### Courses -/

/-- How the delivery of a body may go on with a number of attempts left, the last status being
known. -/
inductive Course (l : Link) (w : Surroundings) (body : String) :
    Nat → Option Status → List Exchange → Except Exit (Except ShippingError Response) → Prop
  | givenUp (last : Option Status) : Course l w body 0 last [] (.ok (.error (l.givenUp last)))
  | delivered {left : Nat} {last : Option Status} {a : Answer} {r : Response} :
      verdict a = .delivered r →
      Course l w body (left + 1) last [(l.request body, some a)] (.ok (.ok r))
  | refused {left : Nat} {last : Option Status} {a : Answer} {status : Status} :
      verdict a = .refused status →
      Course l w body (left + 1) last [(l.request body, some a)] (.ok (.error (rejected status)))
  | failed {left : Nat} {last status : Option Status} {a : Answer} {xs : List Exchange}
      {r : Except Exit (Except ShippingError Response)} :
      verdict a = .failed status → Course l w body left status xs r →
      Course l w body (left + 1) last ((l.request body, some a) :: xs) r
  /-- Stopped while the answer or its text is awaited, or between two attempts. -/
  | stopped {left : Nat} {last : Option Status} {answer : Option Answer} :
      answer.any Answer.isSuccess = false → (∃ p, w.stops p = true) →
      Course l w body (left + 1) last [(l.request body, answer)] (.error .stopped)

theorem attempt_meets (l : Link) (body : String) (number : Nat) (w : Surroundings) (s : Scene β) :
    (l.attempt body number).Meets w s fun r es t =>
      t.store = s.store ∧ recordings es = [] ∧
        ((∃ a, r = .ok (verdict a) ∧ exchanges es = [(l.request body, some a)]) ∨
          r = .error .stopped ∧ (∃ p, w.stops p = true) ∧
            ∃ answer, answer.any Answer.isSuccess = false ∧
              exchanges es = [(l.request body, answer)]) := by
  unfold attempt
  rw [Act.meets_log_bind]
  refine (Act.meets_send (l.request body)).bind ?_ ?_
  · intro a es t hout
    obtain ⟨ht, hr, ⟨a', ha, he⟩ | ⟨ha, -, -⟩⟩ := hout
    · cases ha
      dsimp only
      split
      · next hread =>
        -- The text of an answer that is no success is awaited.
        refine (Act.meets_checkpoint).bind ?_ ?_
        · intro _ es' t' hout
          obtain ⟨ht', he', hr', -⟩ := hout
          rw [Act.meets_say_bind, Act.meets_pure]
          refine ⟨ht'.trans ht, by simp [hr, hr'], .inl ⟨a, rfl, ?_⟩⟩
          simpa [he'] using he
        · intro e es' t' hout
          obtain ⟨ht', he', hr', ⟨h, -⟩ | ⟨h, hw⟩⟩ := hout
          · cases h
          · cases h
            refine ⟨ht'.trans ht, by simp [hr, hr'], .inr ⟨rfl, hw, some a, ?_, ?_⟩⟩
            · exact not_isSuccess_of_isRead hread
            · simpa [he'] using he
      · rw [Act.meets_say_bind, Act.meets_pure]
        exact ⟨ht, by simpa using hr, .inl ⟨a, rfl, by simpa using he⟩⟩
    · cases ha
  · intro e es t hout
    obtain ⟨ht, hr, ⟨a, ha, -⟩ | ⟨ha, he, hw⟩⟩ := hout
    · cases ha
    · cases ha
      exact ⟨ht, hr, .inr ⟨rfl, hw, none, rfl, he⟩⟩

theorem waitBetween_meets (l : Link) (w : Surroundings) (s : Scene β) :
    (l.waitBetween).Meets w s fun r es t =>
      t.store = s.store ∧ exchanges es = [] ∧ recordings es = [] ∧
        (r = .ok () ∨ r = .error .stopped ∧ ∃ p, w.stops p = true) := by
  unfold waitBetween
  split
  · exact ⟨rfl, rfl, rfl, .inl rfl⟩
  · rw [Act.meets_log_bind]
    exact Act.meets_pause _

/-- A delivery follows one of its courses and leaves the store alone. -/
theorem postWithin_meets (l : Link) (body : String) (left : Nat) (last : Option Status)
    (w : Surroundings) (s : Scene β) :
    (l.postWithin body last left).Meets w s fun r es t =>
      t.store = s.store ∧ recordings es = [] ∧ l.Course w body left last (exchanges es) r := by
  induction left generalizing last s with
  | zero =>
    rw [postWithin, Act.meets_log_bind]
    exact ⟨rfl, rfl, .givenUp last⟩
  | succ left ih =>
    rw [postWithin]
    refine (l.attempt_meets body _ w s).bind ?_ ?_
    · intro v es t hout
      obtain ⟨ht, hr, ⟨a, hv, he⟩ | ⟨hv, -⟩⟩ := hout
      · cases hv
        cases hver : verdict a with
        | delivered r =>
          rw [Act.meets_pure]
          refine ⟨ht, by simpa using hr, ?_⟩
          simpa [he] using Course.delivered hver
        | refused status =>
          rw [Act.meets_pure]
          refine ⟨ht, by simpa using hr, ?_⟩
          simpa [he] using Course.refused hver
        | failed status =>
          dsimp only
          split
          · refine (l.waitBetween_meets w t).bind ?_ ?_
            · intro _ es' t' hout
              obtain ⟨ht', he', hr', -⟩ := hout
              refine (ih status t').mono ?_
              intro r es'' t'' hout
              obtain ⟨ht'', hr'', hc⟩ := hout
              refine ⟨ht''.trans (ht'.trans ht), by simp [hr, hr', hr''], ?_⟩
              simpa [he, he'] using Course.failed hver hc
            · intro e es' t' hout
              obtain ⟨ht', he', hr', h | ⟨h, hw⟩⟩ := hout
              · cases h
              · cases h
                have hc : l.Course w body (left + 1) last [(l.request body, some a)]
                    (.error .stopped) := .stopped (not_isSuccess_of_failed hver) hw
                refine ⟨ht'.trans ht, by simp [hr, hr'], ?_⟩
                simpa [he, he'] using hc
          · refine (ih status t).mono ?_
            intro r es' t' hout
            obtain ⟨ht', hr', hc⟩ := hout
            refine ⟨ht'.trans ht, by simp [hr, hr'], ?_⟩
            simpa [he] using Course.failed hver hc
      · cases hv
    · intro e es t hout
      obtain ⟨ht, hr, ⟨a, hv, -⟩ | ⟨hv, hw, answer, ha, he⟩⟩ := hout
      · cases hv
      · cases hv
        refine ⟨ht, hr, ?_⟩
        rw [he]
        exact .stopped ha hw

theorem post_meets (l : Link) (body : String) (w : Surroundings) (s : Scene β) :
    (l.post body).Meets w s fun r es t =>
      t.store = s.store ∧ recordings es = [] ∧
        l.Course w body l.retry.attempts none (exchanges es) r :=
  l.postWithin_meets body l.retry.attempts none w s

/-! ### Attempts and their ends -/

/-- An exchange after which the same body was worth another one. -/
def Retried (l : Link) (body : String) (x : Exchange) : Prop :=
  ∃ a status, x = (l.request body, some a) ∧ verdict a = .failed status

/-- Attempts at a body, all but the last of them worth another one. -/
def Tries (l : Link) (body : String) (xs : List Exchange) (last : Option Answer) : Prop :=
  ∃ before, xs = before ++ [(l.request body, last)] ∧ ∀ x ∈ before, l.Retried body x

/-- Attempts up to the first success. -/
def Takes (l : Link) (body : String) (xs : List Exchange) : Prop :=
  ∃ a, l.Tries body xs (some a) ∧ a.isSuccess = true ∧ xs.length ≤ l.retry.attempts

/-- Attempts up to a refusal or up to the last one, and the error that comes of them. -/
inductive Fails (l : Link) (body : String) (xs : List Exchange) : ShippingError → Prop
  | refused {a : Answer} {status : Status} : l.Tries body xs (some a) →
      xs.length ≤ l.retry.attempts → verdict a = .refused status → Fails l body xs (rejected status)
  | usedUp {a : Answer} {status : Option Status} : l.Tries body xs (some a) →
      xs.length = l.retry.attempts → verdict a = .failed status →
      Fails l body xs (l.givenUp status)

/-- Attempts that were stopped before a success. -/
def Breaks (l : Link) (body : String) (xs : List Exchange) : Prop :=
  ∃ answer, l.Tries body xs answer ∧ answer.any Answer.isSuccess = false

variable {l : Link} {w : Surroundings} {body : String} {xs : List Exchange}

theorem tries_singleton (l : Link) (body : String) (last : Option Answer) :
    l.Tries body [(l.request body, last)] last :=
  ⟨[], rfl, fun _ hx => absurd hx List.not_mem_nil⟩

theorem Tries.cons {last : Option Answer} {a : Answer} {status : Option Status}
    (h : l.Tries body xs last) (ha : verdict a = .failed status) :
    l.Tries body ((l.request body, some a) :: xs) last := by
  obtain ⟨before, rfl, hb⟩ := h
  refine ⟨(l.request body, some a) :: before, rfl, ?_⟩
  intro x hx
  rcases List.mem_cons.1 hx with rfl | hx
  · exact ⟨a, status, rfl, ha⟩
  · exact hb x hx

theorem Tries.request {last : Option Answer} (h : l.Tries body xs last) :
    ∀ x ∈ xs, x.1 = l.request body := by
  obtain ⟨before, rfl, hb⟩ := h
  intro x hx
  rcases List.mem_append.1 hx with hx | hx
  · obtain ⟨a, status, rfl, -⟩ := hb x hx
    rfl
  · rw [List.mem_singleton.1 hx]

theorem Tries.takenBodies {last : Option Answer} (h : l.Tries body xs last) :
    takenBodies xs = if last.any Answer.isSuccess then [body] else [] := by
  obtain ⟨before, rfl, hb⟩ := h
  have hbefore : before.filter Exchange.isSuccess = [] := by
    rw [List.filter_eq_nil_iff]
    intro x hx
    obtain ⟨a, status, rfl, ha⟩ := hb x hx
    simp [Exchange.isSuccess, not_isSuccess_of_failed ha]
  rw [HostTelemetry.takenBodies, List.filter_append, hbefore, List.nil_append]
  cases hl : last.any Answer.isSuccess with
  | true => simp [Exchange.isSuccess, hl, Link.request]
  | false => simp [Exchange.isSuccess, hl]

theorem Course.takes {left : Nat} {last : Option Status} {resp : Response}
    (h : l.Course w body left last xs (.ok (.ok resp))) :
    ∃ a, l.Tries body xs (some a) ∧ a.isSuccess = true ∧ xs.length ≤ left := by
  generalize hr : (Except.ok (Except.ok resp) : Except Exit (Except ShippingError Response)) = r
    at h
  induction h with
  | givenUp last => cases hr
  | delivered hv =>
    exact ⟨_, tries_singleton l body _, isSuccess_of_delivered hv, Nat.le_add_left 1 _⟩
  | refused hv => cases hr
  | failed hv _ ih =>
    obtain ⟨a, ht, ha, hl⟩ := ih hr
    exact ⟨a, ht.cons hv, ha, Nat.succ_le_succ hl⟩
  | stopped _ _ => cases hr

/-- A delivery that fails ends with a refusal or has used up its attempts. -/
theorem Course.fails {left : Nat} {last : Option Status} {e : ShippingError}
    (h : l.Course w body left last xs (.ok (.error e))) :
    (xs = [] ∧ left = 0 ∧ e = l.givenUp last) ∨
      (∃ a status, l.Tries body xs (some a) ∧ xs.length ≤ left ∧ verdict a = .refused status ∧
        e = rejected status) ∨
      ∃ a status, l.Tries body xs (some a) ∧ xs.length = left ∧ verdict a = .failed status ∧
        e = l.givenUp status := by
  generalize hr : (Except.ok (Except.error e) : Except Exit (Except ShippingError Response)) = r
    at h
  induction h with
  | givenUp last =>
    cases hr
    exact .inl ⟨rfl, rfl, rfl⟩
  | delivered hv => cases hr
  | @refused left last a status hv =>
    cases hr
    exact .inr (.inl ⟨a, status, tries_singleton l body _, Nat.le_add_left 1 _, hv, rfl⟩)
  | @failed left last status a xs r hv _ ih =>
    right
    rcases ih hr with ⟨rfl, rfl, he⟩ | ⟨b, st, ht, hl, hb, he⟩ | ⟨b, st, ht, hl, hb, he⟩
    · exact .inr ⟨a, status, tries_singleton l body _, rfl, hv, he⟩
    · exact .inl ⟨b, st, ht.cons hv, Nat.succ_le_succ hl, hb, he⟩
    · exact .inr ⟨b, st, ht.cons hv, congrArg Nat.succ hl, hb, he⟩
  | stopped _ _ => cases hr

theorem Course.breaks {left : Nat} {last : Option Status} {e : Exit}
    (h : l.Course w body left last xs (.error e)) :
    e = .stopped ∧ (∃ p, w.stops p = true) ∧ l.Breaks body xs := by
  generalize hr : (Except.error e : Except Exit (Except ShippingError Response)) = r at h
  induction h with
  | givenUp last => cases hr
  | delivered hv => cases hr
  | refused hv => cases hr
  | failed hv _ ih =>
    obtain ⟨he, hw, answer, ht, ha⟩ := ih hr
    exact ⟨he, hw, answer, ht.cons hv, ha⟩
  | stopped ha hw =>
    cases hr
    exact ⟨rfl, hw, _, tries_singleton l body _, ha⟩

theorem attempts_pos (r : Retry) : 0 < r.attempts := by
  cases r with
  | immediate n => exact Nat.lt_of_lt_of_le Nat.zero_lt_one (Nat.le_max_right n 1)
  | fixed n d => exact Nat.lt_of_lt_of_le Nat.zero_lt_one (Nat.le_max_right n 1)

theorem Course.fails_of_attempts {e : ShippingError}
    (h : l.Course w body l.retry.attempts none xs (.ok (.error e))) : l.Fails body xs e := by
  have hpos := attempts_pos l.retry
  rcases h.fails with ⟨-, h0, -⟩ | ⟨a, status, ht, hl, hv, rfl⟩ | ⟨a, status, ht, hl, hv, rfl⟩
  · omega
  · exact .refused ht hl hv
  · exact .usedUp ht hl hv

theorem Course.takenBodies_of_delivered {left : Nat} {last : Option Status} {resp : Response}
    (h : l.Course w body left last xs (.ok (.ok resp))) : takenBodies xs = [body] := by
  obtain ⟨a, ht, ha, -⟩ := h.takes
  rw [ht.takenBodies, Option.any_some, ha]
  rfl

theorem Fails.request {e : ShippingError} (h : l.Fails body xs e) :
    ∀ x ∈ xs, x.1 = l.request body := by
  cases h with
  | refused ht _ _ => exact ht.request
  | usedUp ht _ _ => exact ht.request

theorem Fails.takenBodies {e : ShippingError} (h : l.Fails body xs e) : takenBodies xs = [] := by
  cases h with
  | refused ht _ hv =>
    rw [ht.takenBodies, Option.any_some, not_isSuccess_of_refused hv]
    rfl
  | usedUp ht _ hv =>
    rw [ht.takenBodies, Option.any_some, not_isSuccess_of_failed hv]
    rfl

end Link

end HostTelemetry
