import HostTelemetry.Proofs.Delivery

/-!
# The budget of a delivery

The answers of the receiver decide how many attempts a delivery makes and what it gives. It goes on
until the first answer that another attempt cannot change, or until its budget is used up, and it
waits between two attempts only.
-/

namespace HostTelemetry

/-! ### Answers -/

namespace Status

variable {status : Status}

theorem isSuccess_iff : status.isSuccess = true ↔ 200 ≤ status.code ∧ status.code < 300 := by
  simp [isSuccess]

theorem isRetryable_iff : status.isRetryable = true ↔
    status.code = 429 ∨ 500 ≤ status.code ∧ status.code < 600 := by
  rcases status with ⟨code⟩
  simp [isRetryable, isServerError, tooManyRequests, or_comm]

theorem not_isRetryable_of_isSuccess (h : status.isSuccess = true) :
    status.isRetryable = false := by
  rw [isSuccess_iff] at h
  rw [Bool.eq_false_iff, ne_eq, isRetryable_iff]
  omega

end Status

namespace Answer

/-- The status of an answer; a connection that ends without one has none. -/
def status? : Answer → Option Status
  | .response r => some r.status
  | .failed _ => none

/-- Whether another attempt cannot change an answer: it has a status, and that is neither 429 nor
one of the 5xx. -/
def isFinal : Answer → Bool
  | .response r => r.status.code ≠ 429 ∧ ¬(500 ≤ r.status.code ∧ r.status.code < 600)
  | .failed _ => false

theorem isFinal_response (r : Response) : (Answer.response r).isFinal = !r.status.isRetryable := by
  rw [Bool.eq_iff_iff, Bool.not_eq_true', Bool.eq_false_iff, ne_eq, Status.isRetryable_iff]
  simp only [isFinal, decide_eq_true_eq, not_or, ne_eq]

end Answer

/-- The position of the first final answer, counted from zero. -/
def FirstFinal (answer : Nat → Answer) (k : Nat) : Prop :=
  (answer k).isFinal = true ∧ ∀ i < k, (answer i).isFinal = false

section FirstFinal

variable {answer : Nat → Answer} {j k : Nat}

theorem FirstFinal.unique (hj : FirstFinal answer j) (hk : FirstFinal answer k) : j = k := by
  rcases Nat.lt_trichotomy j k with h | h | h
  · have hnot := hk.2 j h
    rw [hj.1] at hnot
    cases hnot
  · exact h
  · have hnot := hj.2 k h
    rw [hk.1] at hnot
    cases hnot

theorem firstFinal_zero (h : (answer 0).isFinal = true) : FirstFinal answer 0 :=
  ⟨h, fun _ hi => absurd hi (Nat.not_lt_zero _)⟩

theorem forall_lt_succ_not_isFinal (h0 : (answer 0).isFinal = false)
    (h : ∀ i < k, (answer (i + 1)).isFinal = false) : ∀ i < k + 1, (answer i).isFinal = false := by
  intro i hi
  cases i with
  | zero => exact h0
  | succ i => exact h i (Nat.lt_of_succ_lt_succ hi)

theorem FirstFinal.succ (h0 : (answer 0).isFinal = false)
    (h : FirstFinal (fun i => answer (i + 1)) k) : FirstFinal answer (k + 1) :=
  ⟨h.1, forall_lt_succ_not_isFinal h0 h.2⟩

end FirstFinal

/-! ### Computations that nobody stops -/

namespace Act

variable {β α γ : Type} {w : Surroundings} {s : Scene β}

/-- Unless it is stopped, a computation ends with a value and does just some deeds. -/
def Yields (x : Act β α) (w : Surroundings) (s : Scene β) (a : α) (es : List Effect) : Prop :=
  x.Meets w s fun r es' t =>
    r = .ok a ∧ es' = es ∧ t.progress.sent = s.progress.sent + (exchanges es).length ∨
      r = .error .stopped ∧ ∃ p, w.stops p = true

theorem Yields.bind {x : Act β α} {f : α → Act β γ} {a : α} {c : γ} {es fs : List Effect}
    (hx : x.Yields w s a es)
    (hf : ∀ t : Scene β, t.progress.sent = s.progress.sent + (exchanges es).length →
      (f a).Yields w t c fs) : (x >>= f).Yields w s c (es ++ fs) := by
  refine Meets.bind hx ?_ ?_
  · intro a' es' t hout
    obtain ⟨ha, rfl, ht⟩ | ⟨ha, -⟩ := hout
    · cases ha
      refine (hf t ht).mono ?_
      intro r fs' t' hout'
      obtain ⟨hr, rfl, ht'⟩ | hstop := hout'
      · refine .inl ⟨hr, rfl, ?_⟩
        rw [ht', ht, exchanges_append, List.length_append, Nat.add_assoc]
      · exact .inr hstop
    · cases ha
  · intro e es' t hout
    obtain ⟨he, -⟩ | ⟨he, hw⟩ := hout
    · cases he
    · cases he
      exact .inr ⟨rfl, hw⟩

theorem yields_pure (a : α) : (pure a : Act β α).Yields w s a [] :=
  .inl ⟨rfl, rfl, rfl⟩

theorem yields_log_bind (level : Level) (speaker : Speaker) (message : String)
    (f : Unit → Act β γ) (c : γ) (es : List Effect) :
    (log level speaker message >>= f).Yields w s c es ↔ (f ()).Yields w s c es :=
  meets_log_bind ..

theorem yields_say_bind (events : List Event) (f : Unit → Act β γ) (c : γ) (es : List Effect) :
    (say events >>= f).Yields w s c es ↔ (f ()).Yields w s c es :=
  meets_say_bind ..

theorem yields_pause (d : Duration) : (pause d : Act β Unit).Yields w s () [.paused d] := by
  unfold Yields Meets pause
  dsimp only
  split
  · next h => exact .inr ⟨rfl, _, h⟩
  · exact .inl ⟨rfl, rfl, rfl⟩

theorem yields_checkpoint : (checkpoint : Act β Unit).Yields w s () [] := by
  unfold Yields Meets checkpoint
  dsimp only
  split
  · next h => exact .inr ⟨rfl, _, h⟩
  · exact .inl ⟨rfl, rfl, rfl⟩

theorem yields_send (q : Request) : (send q : Act β Answer).Yields w s
    (w.answer s.progress.sent) [.sent q (some (w.answer s.progress.sent))] := by
  unfold Yields Meets send
  dsimp only
  split
  · next h => exact .inr ⟨rfl, _, h⟩
  · exact .inl ⟨rfl, rfl, rfl⟩

end Act

namespace Retry

def count : Retry → Nat
  | .immediate n => n
  | .fixed n _ => n

theorem attempts_eq (r : Retry) : r.attempts = max r.count 1 := by
  cases r <;> rfl

/-- What is done between two attempts: one wait, or nothing if the interval is zero. -/
def waits : Retry → List Effect
  | .immediate _ => []
  | .fixed _ d => if d.seconds = 0 ∧ d.nanos = 0 then [] else [.paused d]

theorem waits_eq (r : Retry) :
    r.waits = if r.interval.isZero then [] else [.paused r.interval] := by
  cases r with
  | immediate n => rfl
  | fixed n d => simp [waits, interval, Duration.isZero]

theorem exchanges_waits (r : Retry) : exchanges r.waits = [] := by
  rw [waits_eq]
  split <;> rfl

end Retry

namespace Link

variable {β : Type}

/-! ### The deeds of some attempts -/

/-- A number of attempts at a body, one for each answer, with a wait between each two. -/
def attemptDeeds (l : Link) (body : String) (answer : Nat → Answer) (count : Nat) : List Effect :=
  l.retry.waits.intercalate
    ((List.range count).map fun i => [.sent (l.request body) (some (answer i))])

theorem attemptDeeds_one (l : Link) (body : String) (answer : Nat → Answer) :
    l.attemptDeeds body answer 1 = [.sent (l.request body) (some (answer 0))] :=
  List.intercalate_singleton

theorem attemptDeeds_succ (l : Link) (body : String) (answer : Nat → Answer) {count : Nat}
    (h : count ≠ 0) : l.attemptDeeds body answer (count + 1) =
      [.sent (l.request body) (some (answer 0))] ++
        (l.retry.waits ++ l.attemptDeeds body (fun i => answer (i + 1)) count) := by
  obtain ⟨count, rfl⟩ := Nat.exists_eq_succ_of_ne_zero h
  rw [attemptDeeds, attemptDeeds, List.range_succ_eq_map, List.map_cons, List.map_map,
    ← List.append_assoc]
  rw [List.range_succ_eq_map, List.map_cons, List.map_cons]
  exact List.intercalate_cons_cons

theorem yields_attempt (l : Link) (body : String) (number : Nat) (w : Surroundings) (s : Scene β) :
    (l.attempt body number).Yields w s (verdict (w.answer s.progress.sent))
      [.sent (l.request body) (some (w.answer s.progress.sent))] := by
  unfold attempt
  rw [Act.yields_log_bind]
  refine (Act.yields_send (l.request body)).bind ?_
  intro t ht
  have hrest : ∀ t' : Scene β, (do
      Act.say (answerEvents (w.answer s.progress.sent))
      return verdict (w.answer s.progress.sent) : Act β Verdict).Yields w t'
        (verdict (w.answer s.progress.sent)) [] := by
    intro t'
    rw [Act.yields_say_bind]
    exact Act.yields_pure _
  dsimp only
  split
  · exact Act.yields_checkpoint.bind fun t' _ => hrest t'
  · exact hrest t

theorem yields_waitBetween (l : Link) (w : Surroundings) (s : Scene β) :
    (l.waitBetween).Yields w s () l.retry.waits := by
  rw [waitBetween, Retry.waits_eq]
  split
  · exact Act.yields_pure ()
  · rw [Act.yields_log_bind]
    exact Act.yields_pause _

/-! ### How a delivery ends -/

theorem verdict_cases (a : Answer) :
    a.isFinal = false ∧ verdict a = .failed a.status? ∨
      ∃ r, a = .response r ∧ a.isFinal = true ∧
        (r.status.isSuccess = true ∧ verdict a = .delivered r ∨
          r.status.isSuccess = false ∧ verdict a = .refused r.status) := by
  cases a with
  | failed reason => exact .inl ⟨rfl, rfl⟩
  | response r =>
    have hfinal := Answer.isFinal_response r
    cases hs : r.status.isSuccess with
    | true =>
      rw [Status.not_isRetryable_of_isSuccess hs] at hfinal
      exact .inr ⟨r, rfl, hfinal, .inl ⟨hs, by simp [verdict, hs]⟩⟩
    | false =>
      cases hr : r.status.isRetryable with
      | true =>
        rw [hr] at hfinal
        exact .inl ⟨hfinal, by simp [verdict, hs, hr, Answer.status?]⟩
      | false =>
        rw [hr] at hfinal
        exact .inr ⟨r, rfl, hfinal, .inr ⟨hs, by simp [verdict, hs, hr]⟩⟩

/-- The status of the last of some attempts, of which there may be none. -/
def lastStatus (last : Option Status) (answer : Nat → Answer) : Nat → Option Status
  | 0 => last
  | count + 1 => (answer count).status?

theorem lastStatus_succ (last : Option Status) (answer : Nat → Answer) (count : Nat) :
    lastStatus (answer 0).status? (fun i => answer (i + 1)) count =
      lastStatus last answer (count + 1) := by
  cases count <;> rfl

def settlement (r : Response) : Except ShippingError Response :=
  if r.status.isSuccess then .ok r else .error (rejected r.status)

theorem settlement_eq_ok_iff {r r' : Response} :
    settlement r = .ok r' ↔ r = r' ∧ r.status.isSuccess = true := by
  unfold settlement
  split
  · next h => simp [h]
  · next h => simp [h]

/-- How many attempts are made of those that are left, and what comes of them. -/
inductive Ends (l : Link) (answer : Nat → Answer) (left : Nat) (last : Option Status) :
    Nat → Except ShippingError Response → Prop
  | settled {k : Nat} {r : Response} : k < left → FirstFinal answer k → answer k = .response r →
      Ends l answer left last (k + 1) (settlement r)
  | usedUp : (∀ i < left, (answer i).isFinal = false) →
      Ends l answer left last left (.error (l.givenUp (lastStatus last answer left)))

section Ends

variable {l : Link} {answer : Nat → Answer} {left count : Nat} {last : Option Status}
  {result : Except ShippingError Response}

theorem Ends.succ (h0 : (answer 0).isFinal = false)
    (h : l.Ends (fun i => answer (i + 1)) left (answer 0).status? count result) :
    l.Ends answer (left + 1) last (count + 1) result := by
  cases h with
  | settled hk hfirst ha => exact .settled (Nat.succ_lt_succ hk) (hfirst.succ h0) ha
  | usedUp hall =>
    rw [lastStatus_succ last]
    exact .usedUp (forall_lt_succ_not_isFinal h0 hall)

theorem Ends.count_le (h : l.Ends answer left last count result) : count ≤ left := by
  cases h with
  | settled hk _ _ => exact hk
  | usedUp _ => exact Nat.le_refl _

theorem Ends.count_ne_zero (h : l.Ends answer left last count result) (hleft : left ≠ 0) :
    count ≠ 0 := by
  cases h with
  | settled _ _ _ => exact Nat.succ_ne_zero _
  | usedUp _ => exact hleft

theorem Ends.of_firstFinal {k : Nat} {r : Response} (h : l.Ends answer left last count result)
    (hk : k < left) (hfirst : FirstFinal answer k) (ha : answer k = .response r) :
    count = k + 1 ∧ result = settlement r := by
  cases h with
  | @settled j r' _ hj ha' =>
    rw [hj.unique hfirst, ha] at ha'
    cases ha'
    exact ⟨by rw [hj.unique hfirst], rfl⟩
  | usedUp hall => exact absurd (hall k hk) (Bool.not_eq_false _ ▸ hfirst.1)

theorem Ends.of_none (h : l.Ends answer left last count result)
    (hall : ∀ i < left, (answer i).isFinal = false) :
    count = left ∧ result = .error (l.givenUp (lastStatus last answer left)) := by
  cases h with
  | @settled k _ hk hfirst _ => exact absurd (hall k hk) (Bool.not_eq_false _ ▸ hfirst.1)
  | usedUp _ => exact ⟨rfl, rfl⟩

end Ends

/-- Attempts are made while some are left. They see the answers from a number on. -/
theorem yields_postWithin (l : Link) (body : String) (w : Surroundings) (left : Nat)
    (last : Option Status) (number : Nat) :
    ∃ count result, l.Ends (fun i => w.answer (number + i)) left last count result ∧
      ∀ s : Scene β, s.progress.sent = number → (l.postWithin body last left).Yields w s result
        (l.attemptDeeds body (fun i => w.answer (number + i)) count) := by
  -- Each attempt leaves one fewer and reads the answer behind the ones read before.
  induction left generalizing last number with
  | zero =>
    refine ⟨0, _, .usedUp fun i hi => absurd hi (Nat.not_lt_zero i), ?_⟩
    intro s _
    rw [postWithin, Act.yields_log_bind]
    exact Act.yields_pure _
  | succ left ih =>
    have hattempt : ∀ s : Scene β, s.progress.sent = number →
        (l.attempt body (l.retry.attempts - left)).Yields w s (verdict (w.answer number))
          [.sent (l.request body) (some (w.answer number))] := by
      intro s hs
      have h := l.yields_attempt body (l.retry.attempts - left) w s
      rwa [hs] at h
    obtain ⟨h0, hv⟩ | ⟨r, ha, h0, hv⟩ := verdict_cases (w.answer number)
    · -- The answer may change: the others are those of a delivery that starts one later.
      obtain ⟨count, result, hends, hrest⟩ := ih (w.answer number).status? (number + 1)
      have hshift : (fun i => w.answer (number + 1 + i)) =
          fun i => w.answer (number + (i + 1)) := by
        funext i
        rw [Nat.add_assoc, Nat.add_comm 1 i]
      rw [hshift] at hends hrest
      refine ⟨count + 1, result, hends.succ h0, ?_⟩
      intro s hs
      rw [postWithin]
      rcases Nat.eq_zero_or_pos left with rfl | hpos
      · -- No wait follows the last attempt.
        have hcount : count = 0 := Nat.le_zero.1 hends.count_le
        subst hcount
        rw [attemptDeeds_one]
        refine (hattempt s hs).bind fun t ht => ?_
        rw [hv]
        exact hrest t (by rw [ht, hs]; rfl)
      · have hleft : left ≠ 0 := Nat.ne_of_gt hpos
        rw [attemptDeeds_succ l body _ (hends.count_ne_zero hleft)]
        refine (hattempt s hs).bind fun t ht => ?_
        rw [hv]
        simp only [hleft, ne_eq, not_false_eq_true, if_true]
        refine (l.yields_waitBetween w t).bind fun t' ht' => hrest t' ?_
        rw [ht', ht, hs, Retry.exchanges_waits]
        rfl
    · refine ⟨1, settlement r, .settled (Nat.succ_pos left) (firstFinal_zero h0) ha, ?_⟩
      intro s hs
      rw [postWithin, attemptDeeds_one]
      refine (hattempt s hs).bind fun t _ => ?_
      obtain ⟨hsuccess, hv⟩ | ⟨hsuccess, hv⟩ := hv
      · rw [hv, settlement, if_pos hsuccess]
        exact Act.yields_pure _
      · rw [hv, settlement, if_neg (by simp [hsuccess])]
        exact Act.yields_pure _

/-! ### A delivery and its budget -/

/-- What a delivery with a budget of attempts does and gives, the answers being known. It fails with
the status of the final answer, or of the last one within the budget. -/
structure Spends (l : Link) (body : String) (budget : Nat) (answer : Nat → Answer)
    (es : List Effect) (result : Except ShippingError Response) : Prop where
  /-- Attempts are made up to the first final answer, as far as the budget goes. -/
  settled : ∀ k, FirstFinal answer k → es = l.attemptDeeds body answer (min (k + 1) budget)
  unsettled : (∀ i, (answer i).isFinal = false) → es = l.attemptDeeds body answer budget
  delivered : ∀ r, result = .ok r ↔
    ∃ k < budget, FirstFinal answer k ∧ answer k = .response r ∧
      200 ≤ r.status.code ∧ r.status.code < 300
  refused : ∀ k < budget, FirstFinal answer k → ∀ r, answer k = .response r →
    ¬(200 ≤ r.status.code ∧ r.status.code < 300) →
      ∃ reason, result = .error (.destination (some r.status) reason)
  usedUp : (∀ i < budget, (answer i).isFinal = false) →
    ∃ reason, result = .error (.destination (answer (budget - 1)).status? reason)

theorem exists_response_of_isFinal {a : Answer} (h : a.isFinal = true) :
    ∃ r, a = .response r := by
  cases a with
  | response r => exact ⟨r, rfl⟩
  | failed reason => cases h

theorem lastStatus_of_pos (last : Option Status) (answer : Nat → Answer) {count : Nat}
    (h : 0 < count) : lastStatus last answer count = (answer (count - 1)).status? := by
  cases count with
  | zero => exact absurd h (Nat.lt_irrefl 0)
  | succ count => rfl

theorem Ends.spends {l : Link} {answer : Nat → Answer} {budget count : Nat}
    {result : Except ShippingError Response} (h : l.Ends answer budget none count result)
    (hpos : 0 < budget) (body : String) :
    l.Spends body budget answer (l.attemptDeeds body answer count) result where
  settled k hfirst := by
    obtain ⟨r, ha⟩ := exists_response_of_isFinal hfirst.1
    -- A final answer behind the budget is never read.
    rcases Nat.lt_or_ge k budget with hk | hk
    · rw [(h.of_firstFinal hk hfirst ha).1, Nat.min_eq_left hk]
    · have hall := fun i hi => hfirst.2 i (Nat.lt_of_lt_of_le hi hk)
      rw [(h.of_none hall).1, Nat.min_eq_right (Nat.le_succ_of_le hk)]
  unsettled hall := by rw [(h.of_none fun i _ => hall i).1]
  delivered r := by
    constructor
    · intro hr
      cases h with
      | @settled k r' hk hfirst ha =>
        obtain ⟨rfl, hs⟩ := settlement_eq_ok_iff.1 hr
        exact ⟨k, hk, hfirst, ha, Status.isSuccess_iff.1 hs⟩
      | usedUp _ => cases hr
    · rintro ⟨k, hk, hfirst, ha, hs⟩
      rw [(h.of_firstFinal hk hfirst ha).2]
      exact settlement_eq_ok_iff.2 ⟨rfl, Status.isSuccess_iff.2 hs⟩
  refused k hk hfirst r ha hs := by
    rw [(h.of_firstFinal hk hfirst ha).2, settlement, if_neg (mt Status.isSuccess_iff.1 hs)]
    exact ⟨_, rfl⟩
  usedUp hall := by
    rw [(h.of_none hall).2, lastStatus_of_pos none answer hpos]
    exact ⟨_, rfl⟩

/-- A delivery spends its budget, which is at least one attempt, on the answers that come, unless
somebody stops it. -/
theorem post_spends_budget (l : Link) (body : String) (w : Surroundings) (s : Scene β) :
    (∃ result, (l.post body w s).result = .ok result ∧
      l.Spends body (max l.retry.count 1) (fun i => w.answer (s.progress.sent + i))
        (deeds (l.post body w s).effects) result) ∨
      (l.post body w s).result = .error .stopped ∧ ∃ p, w.stops p = true := by
  obtain ⟨count, result, hends, hyields⟩ :=
    l.yields_postWithin (β := β) body w l.retry.attempts none s.progress.sent
  have hpost : (l.post body).Yields w s result
      (l.attemptDeeds body (fun i => w.answer (s.progress.sent + i)) count) := hyields s rfl
  obtain ⟨hr, he, -⟩ | hstop := hpost
  · refine .inl ⟨result, hr, ?_⟩
    rw [he, ← Retry.attempts_eq]
    exact hends.spends (attempts_pos l.retry) body
  · exact .inr hstop

/-- A receiver whose third answer is the first final one. -/
def mixedWorld : Surroundings where
  source := { read := fun _ _ => ⟨.ok [], []⟩ }
  answer
    | 0 => .response ⟨⟨503⟩, "busy"⟩
    | 1 => .failed "connection reset"
    | _ => .response ⟨⟨404⟩, "no such project"⟩

def mixedScene : Scene MemoryBackend := ⟨{ backend := {} }, {}⟩

def patient : Link := ⟨"https://receiver/receive", .fixed 3 (.ofSeconds 60)⟩

def hasty : Link := ⟨"https://receiver/receive", .immediate 2⟩

/-- With three attempts the refusal is reached, behind two waits; with two the last of them has no
status, whatever the first one had. -/
theorem post_spends_budget_mixed :
    (∃ reason, (patient.post "body" mixedWorld mixedScene).result =
      .ok (.error (.destination (some ⟨404⟩) reason))) ∧
    deeds (patient.post "body" mixedWorld mixedScene).effects =
      [.sent ⟨"https://receiver/receive", "body"⟩ (some (.response ⟨⟨503⟩, "busy"⟩)),
        .paused (.ofSeconds 60),
        .sent ⟨"https://receiver/receive", "body"⟩ (some (.failed "connection reset")),
        .paused (.ofSeconds 60),
        .sent ⟨"https://receiver/receive", "body"⟩
          (some (.response ⟨⟨404⟩, "no such project"⟩))] ∧
    ∃ reason, (hasty.post "body" mixedWorld mixedScene).result =
      .ok (.error (.destination none reason)) := by
  have hnobody : ¬∃ p, mixedWorld.stops p = true := fun ⟨_, h⟩ => Bool.false_ne_true h
  have hthird : FirstFinal (fun i => mixedWorld.answer (0 + i)) 2 := ⟨rfl, by decide⟩
  obtain ⟨refused, hrefused, hpatient⟩ :=
    (patient.post_spends_budget "body" mixedWorld mixedScene).resolve_right fun h => hnobody h.2
  obtain ⟨failed, hfailed, hhasty⟩ :=
    (hasty.post_spends_budget "body" mixedWorld mixedScene).resolve_right fun h => hnobody h.2
  obtain ⟨reason, rfl⟩ := hpatient.refused 2 (by decide) hthird _ rfl (by decide)
  obtain ⟨reason', rfl⟩ := hhasty.usedUp (by decide)
  exact ⟨⟨reason, hrefused⟩, hpatient.settled 2 hthird, reason', hfailed⟩

end Link

end HostTelemetry
