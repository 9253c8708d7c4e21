import HostTelemetry.Proofs.StoreLedger

/-!
# Owed clears

A watched backend acts like the one that is watched and writes down what it is asked to do. What a
store over it keeps of its clears agrees with what is written there: a clear is owed exactly if the
last reset failed, and the failures counted are the resets that failed since one succeeded. A round
begins with as many resets as an owed clear needs, and with none if no clear is owed.
-/

namespace HostTelemetry

/-! ### Watched backends -/

/-- What a backend is asked to do. Of a reset the answer is kept. -/
inductive Operation where
  | insert (row : Row)
  | selectRows
  | selectInstances
  | reset (answer : Except StoreError Unit)

def Operation.reset? : Operation → Option (Except StoreError Unit)
  | .reset answer => some answer
  | _ => none

def resets (operations : List Operation) : List (Except StoreError Unit) :=
  operations.filterMap Operation.reset?

structure Watched (β : Type) where
  backend : β
  operations : List Operation

instance {β : Type} [Backend β] : Backend (Watched β) where
  insert b row :=
    ((Backend.insert b.backend row).1,
      ⟨(Backend.insert b.backend row).2, b.operations ++ [.insert row]⟩)
  selectRows b :=
    ((Backend.selectRows b.backend).1,
      ⟨(Backend.selectRows b.backend).2, b.operations ++ [.selectRows]⟩)
  selectInstances b :=
    ((Backend.selectInstances b.backend).1,
      ⟨(Backend.selectInstances b.backend).2, b.operations ++ [.selectInstances]⟩)
  reset b :=
    ((Backend.reset b.backend).1,
      ⟨(Backend.reset b.backend).2, b.operations ++ [.reset (Backend.reset b.backend).1]⟩)

namespace Store

variable {β : Type} [Backend β]

/-- The same store over its backend watched, behind what was written down before. -/
def watched (s : Store β) (before : List Operation) : Store (Watched β) :=
  ⟨⟨s.backend, before⟩, s.clearOwed, s.failedClears⟩

/-- What some calls ask of the backend, one call after the other. -/
def operations (s : Store β) (calls : List Call) : List Operation :=
  ((s.watched []).after calls).backend.operations

/-! ### What calls ask -/

/-- The answers to the resets of attempts at a clear. -/
def tries (s : Store β) : Nat → List (Except StoreError Unit)
  | 0 => []
  | n + 1 => s.clear.answer ::
    match s.clear.answer with
    | .ok _ => []
    | .error _ => s.clear.store.tries n

def asked (s : Store β) : Call → List Operation
  | .record row => [.insert row]
  | .instances => [.selectInstances]
  | .rows => [.selectRows]
  | .rowsOf _ => [.selectRows]
  | .clear => [.reset s.clear.answer]
  | .beginRound => if s.clearOwed then (s.tries maxClearAttempts).map .reset else []

theorem record_watched (s : Store β) (before : List Operation) (row : Row) :
    ((s.watched before).record row).answer = (s.record row).answer ∧
      ((s.watched before).record row).store =
        (s.record row).store.watched (before ++ [.insert row]) := by
  unfold record
  simp only [watched, Backend.insert]
  rcases Backend.insert s.backend row with ⟨answer, b⟩
  cases answer with
  | stored => exact ⟨rfl, rfl⟩
  | refused e => exact ⟨rfl, rfl⟩
  | brokeOff m => exact ⟨rfl, rfl⟩

theorem clear_watched (s : Store β) (before : List Operation) :
    (s.watched before).clear.answer = s.clear.answer ∧
      (s.watched before).clear.store =
        s.clear.store.watched (before ++ [.reset s.clear.answer]) := by
  unfold clear
  simp only [watched, Backend.reset]
  rcases Backend.reset s.backend with ⟨answer, b⟩
  cases answer with
  | ok u => exact ⟨rfl, rfl⟩
  | error e => exact ⟨rfl, rfl⟩

theorem clearWithin_watched (n : Nat) (s : Store β) (before : List Operation) :
    ((s.watched before).clearWithin n).answer = (s.clearWithin n).answer ∧
      ((s.watched before).clearWithin n).store =
        (s.clearWithin n).store.watched (before ++ (s.tries n).map .reset) := by
  induction n generalizing s before with
  | zero =>
    simp [clearWithin, tries, watched]
  | succ n ih =>
    obtain ⟨hanswer, hstore⟩ := s.clear_watched before
    rw [clearWithin, clearWithin, tries, hanswer]
    cases ha : s.clear.answer with
    | ok u =>
      rw [ha] at hanswer hstore
      exact ⟨hanswer.trans ha.symm, hstore⟩
    | error e =>
      obtain ⟨hrest, hstore'⟩ := ih s.clear.store (before ++ [.reset (.error e)])
      rw [ha] at hstore
      dsimp only
      rw [hstore, hrest, hstore']
      simp

theorem beginRound_watched (s : Store β) (before : List Operation) :
    (s.watched before).beginRound.answer = s.beginRound.answer ∧
      (s.watched before).beginRound.store =
        s.beginRound.store.watched (before ++ s.asked .beginRound) := by
  have howed : (s.watched before).clearOwed = s.clearOwed := rfl
  unfold beginRound asked
  rw [howed]
  split
  · exact s.clearWithin_watched maxClearAttempts before
  · simp

theorem perform_watched (s : Store β) (before : List Operation) (c : Call) :
    (s.watched before).perform c =
      ((s.perform c).1, (s.perform c).2.watched (before ++ s.asked c)) := by
  cases c with
  | record row =>
    obtain ⟨hanswer, hstore⟩ := s.record_watched before row
    rw [perform, perform, hanswer, hstore, asked]
  | instances => rfl
  | rows => rfl
  | rowsOf name => rfl
  | clear =>
    obtain ⟨hanswer, hstore⟩ := s.clear_watched before
    rw [perform, perform, hanswer, hstore, asked]
  | beginRound =>
    obtain ⟨hanswer, hstore⟩ := s.beginRound_watched before
    rw [perform, perform, hanswer, hstore]

theorem resetsFail_watched (n : Nat) (b : β) (before : List Operation) :
    resetsFail n (Watched.mk b before) = resetsFail n b := by
  induction n generalizing b before with
  | zero => rfl
  | succ n ih =>
    rw [resetsFail, resetsFail]
    exact congrArg (!(Backend.reset b).1.isOk && ·) (ih _ _)

/-- A watched backend fails what the one that is watched fails. -/
theorem fails_watched (s : Store β) (before : List Operation) (c : Call) :
    (s.watched before).fails c = s.fails c := by
  cases c with
  | beginRound => exact congrArg (s.clearOwed && ·) (resetsFail_watched _ s.backend before)
  | _ => rfl

theorem after_watched (s : Store β) (calls : List Call) :
    (s.watched []).after calls = (s.after calls).watched (s.operations calls) := by
  induction calls using List.reverseRecOn with
  | nil => rfl
  | append_singleton calls c ih =>
    have hstep : (s.watched []).after (calls ++ [c]) = (s.after (calls ++ [c])).watched
        (s.operations calls ++ (s.after calls).asked c) := by
      rw [after_concat, after_concat, ih, perform_watched]
    rw [operations, hstep]
    rfl

theorem operations_concat (s : Store β) (calls : List Call) (c : Call) :
    s.operations (calls ++ [c]) = s.operations calls ++ (s.after calls).asked c := by
  rw [operations, after_concat, after_watched, perform_watched]
  rfl

theorem operations_singleton (s : Store β) (c : Call) : s.operations [c] = s.asked c :=
  s.operations_concat [] c

theorem history_watched (s : Store β) (calls : List Call) :
    (s.watched []).history calls = s.history calls := by
  induction calls using List.reverseRecOn with
  | nil => rfl
  | append_singleton calls c ih =>
    have howed : ∀ (t : Store β) before, (t.watched before).clearOwed = t.clearOwed :=
      fun _ _ => rfl
    rw [history_concat, history_concat, ih, after_watched, transact, transact, perform_watched,
      fails_watched, howed]

/-! ### Attempts at a clear -/

/-- Attempts that end with the first that succeeds, or with the last that is allowed. -/
structure TriedUpTo (most : Nat) (answers : List (Except StoreError Unit)) : Prop where
  length_le : answers.length ≤ most
  failed : ∀ answer ∈ answers.dropLast, answer.isOk = false
  ended : answers.length < most → answers.getLast? = some (.ok ())

theorem triedUpTo_tries (n : Nat) (s : Store β) : TriedUpTo n (s.tries n) := by
  induction n generalizing s with
  | zero => exact ⟨Nat.le_refl _, by simp [tries], fun h => absurd h (Nat.not_lt_zero _)⟩
  | succ n ih =>
    rw [tries]
    cases ha : s.clear.answer with
    | ok u => exact ⟨by simp, by simp, fun _ => rfl⟩
    | error e =>
      obtain ⟨hlength, hfailed, hended⟩ := ih s.clear.store
      have hfirst : (Except.error e : Except StoreError Unit).isOk = false := rfl
      refine ⟨Nat.succ_le_succ hlength, ?_, ?_⟩
      · cases hrest : s.clear.store.tries n with
        | nil => simp
        | cons answer rest =>
          rw [hrest] at hfailed
          rw [List.dropLast_cons_cons]
          exact List.forall_mem_cons.2 ⟨hfirst, hfailed⟩
      · intro hlt
        rw [List.getLast?_cons, hended (Nat.lt_of_succ_lt_succ hlt)]
        rfl

theorem clearOwed_clear (s : Store β) : s.clear.store.clearOwed = !s.clear.answer.isOk := by
  unfold clear
  split
  · rfl
  · rfl

theorem clearWithin_answer (n : Nat) (s : Store β) :
    (.ok () ∈ s.tries n → (s.clearWithin n).answer = .ok () ∧
      (s.clearWithin n).store.clearOwed = false) ∧
    (.ok () ∉ s.tries n → (s.clearWithin n).answer =
      .error (.clearFailed (s.clearWithin n).store.failedClears)) := by
  induction n generalizing s with
  | zero => exact ⟨fun h => absurd h List.not_mem_nil, fun _ => rfl⟩
  | succ n ih =>
    rw [clearWithin, tries]
    cases ha : s.clear.answer with
    | ok u =>
      have hpaid : s.clear.store.clearOwed = false := by rw [clearOwed_clear, ha]; rfl
      exact ⟨fun _ => ⟨ha, hpaid⟩, fun h => absurd (List.mem_singleton_self _) h⟩
    | error e =>
      obtain ⟨hpaid, hfailed⟩ := ih s.clear.store
      have hmem : (.ok () : Except StoreError Unit) ∈ .error e :: s.clear.store.tries n ↔
          .ok () ∈ s.clear.store.tries n := by simp
      rw [hmem]
      exact ⟨hpaid, hfailed⟩

/-! ### The books of a store -/

/-- How many resets failed since one succeeded. -/
def failures (answers : List (Except StoreError Unit)) : Nat :=
  (answers.rtakeWhile fun answer => !answer.isOk).length

theorem failures_concat (answers : List (Except StoreError Unit))
    (answer : Except StoreError Unit) : failures (answers ++ [answer]) =
      if answer.isOk then 0 else failures answers + 1 := by
  rw [failures, List.rtakeWhile_concat]
  cases answer with
  | ok u => rfl
  | error e => simp [failures, Except.isOk, Except.toBool]

/-- What a store has of its clears, if its resets were answered so. -/
structure Booked (s : Store β) (answers : List (Except StoreError Unit)) : Prop where
  owed : s.clearOwed = true ↔ ∃ e, answers.getLast? = some (.error e)
  failed : s.failedClears = failures answers

variable {s : Store β} {answers : List (Except StoreError Unit)}

theorem Booked.clear (h : s.Booked answers) :
    s.clear.store.Booked (answers ++ [s.clear.answer]) := by
  unfold Store.clear
  rcases Backend.reset s.backend with ⟨answer, b⟩
  cases answer with
  | ok u => exact ⟨by simp, by rw [failures_concat]; rfl⟩
  | error e => exact ⟨by simp, by rw [failures_concat, ← h.failed]; rfl⟩

theorem Booked.clearWithin (n : Nat) (h : s.Booked answers) :
    (s.clearWithin n).store.Booked (answers ++ s.tries n) := by
  induction n generalizing s answers with
  | zero =>
    rw [tries, List.append_nil]
    exact h
  | succ n ih =>
    have hfirst := h.clear
    rw [Store.clearWithin, tries]
    cases ha : s.clear.answer with
    | ok u =>
      rw [ha] at hfirst
      exact hfirst
    | error e =>
      rw [ha] at hfirst
      have hrest := ih hfirst
      rw [List.append_assoc] at hrest
      exact hrest

omit [Backend β] in
theorem Booked.of_kept (h : s.Booked answers) {t : Store β} (howed : t.clearOwed = s.clearOwed)
    (hfailed : t.failedClears = s.failedClears) : t.Booked (answers ++ []) := by
  rw [List.append_nil]
  exact ⟨howed ▸ h.owed, hfailed ▸ h.failed⟩

/-- Only resets change what is owed. -/
theorem Booked.perform (h : s.Booked answers) (c : Call) :
    (s.perform c).2.Booked (answers ++ resets (s.asked c)) := by
  have hreset : ∀ l : List (Except StoreError Unit), resets (l.map .reset) = l := by
    intro l
    rw [resets, List.filterMap_map]
    exact List.filterMap_some
  cases c with
  | clear => exact h.clear
  | beginRound =>
    rw [Store.perform, asked, beginRound]
    split
    · rw [hreset]
      exact h.clearWithin maxClearAttempts
    · simpa [resets] using h
  | record row =>
    have hkept : (s.record row).store.clearOwed = s.clearOwed ∧
        (s.record row).store.failedClears = s.failedClears := by
      unfold Store.record
      split
      · exact ⟨rfl, rfl⟩
      · exact ⟨rfl, rfl⟩
      · exact ⟨rfl, rfl⟩
    exact h.of_kept hkept.1 hkept.2
  | instances => exact h.of_kept rfl rfl
  | rows => exact h.of_kept rfl rfl
  | rowsOf name => exact h.of_kept rfl rfl

theorem booked_after (b : β) (calls : List Call) :
    (({ backend := b } : Store β).after calls).Booked
      (resets (({ backend := b } : Store β).operations calls)) := by
  induction calls using List.reverseRecOn with
  | nil => exact ⟨by simp [operations, after, run, watched, resets], rfl⟩
  | append_singleton calls c ih =>
    have h := ih.perform c
    rwa [after_concat, operations_concat, resets, List.filterMap_append]

/-! ### Any calls, any resets that fail -/

/-- After any calls, whatever failed, a store owes a clear exactly if the last reset of its backend
failed, and has counted the resets that failed since one succeeded. A round begins without a reset,
or with resets until one succeeds, and else reports all failures; a clear is one reset. -/
theorem after_books_clears (b : β) (calls : List Call) :
    let s : Store β := { backend := b }
    let t := s.after calls
    let answers := resets (s.operations calls)
    (s.watched []).history calls = s.history calls ∧
      (t.clearOwed = true ↔ ∃ e, answers.getLast? = some (.error e)) ∧
      t.failedClears = failures answers ∧
      (t.clearOwed = false →
        t.operations [.beginRound] = [] ∧ t.beginRound.answer = .ok ()) ∧
      (t.clearOwed = true → ∃ tries, t.operations [.beginRound] = tries.map .reset ∧
        TriedUpTo 3 tries ∧
        (t.beginRound.answer = .ok () ↔ .ok () ∈ tries) ∧
        (.ok () ∈ tries → t.beginRound.store.clearOwed = false) ∧
        (.ok () ∉ tries →
          t.beginRound.answer = .error (.clearFailed (failures (answers ++ tries))))) ∧
      t.operations [.clear] = [.reset t.clear.answer] := by
  intro s t answers
  have hbooked : t.Booked answers := booked_after b calls
  refine ⟨s.history_watched calls, hbooked.owed, hbooked.failed, ?_, ?_, operations_singleton t _⟩
  · intro howed
    rw [operations_singleton, asked, beginRound, howed]
    exact ⟨rfl, rfl⟩
  · intro howed
    obtain ⟨hpaid, hunpaid⟩ := t.clearWithin_answer maxClearAttempts
    -- The failures of the round are counted on top of those that came before it.
    have hfailed := (hbooked.clearWithin maxClearAttempts).failed
    rw [operations_singleton, asked, beginRound, if_pos howed, if_pos howed]
    refine ⟨t.tries maxClearAttempts, rfl, t.triedUpTo_tries _, ?_, ?_, ?_⟩
    · refine ⟨fun hok => ?_, fun h => (hpaid h).1⟩
      by_contra hnone
      rw [hunpaid hnone] at hok
      cases hok
    · exact fun h => (hpaid h).2
    · intro h
      rw [← hfailed]
      exact hunpaid h

/-- A clear fails, then the three attempts of a round, then the first of two in the next round. -/
example :
    let s : Store FaultyBackend := { backend := { refusedResets := 5 } }
    let t := s.after [.clear, .beginRound]
    t.clearOwed = true ∧ t.failedClears = 4 ∧ t.beginRound.answer = .ok () ∧
      resets (t.operations [.beginRound]) = [.error (.backend "drop refused"), .ok ()] :=
  ⟨rfl, rfl, rfl, rfl⟩

end Store

end HostTelemetry
