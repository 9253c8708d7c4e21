import HostTelemetry.Proofs.Chunking
import HostTelemetry.Proofs.StoreContents
import Mathlib.Data.List.DropRight

/-!
# A store as a ledger of rows

A ledger is what a store is meant to be: rows in the order in which they were taken, and the clear
that is owed. `Ledger.Step` says what a call answers on a ledger and which ledger it leaves, given
whether the backend fails what is asked of it. Over a backend whose failures change no row, every
call of a store is such a step: it fails if the backend does, and only then.

A call has the store to itself from its beginning to its end, so what several writers do is one
sequence of calls.
-/

namespace HostTelemetry

/-- A backend whose rows are those of before when a reset fails. -/
class FaithfulBackend (β : Type) [Backend β] extends LawfulBackend β where
  contents_of_reset_error : ∀ (b : β) (e : StoreError), (Backend.reset b).1 = .error e →
    contents (Backend.reset b).2 = contents b

instance : FaithfulBackend MemoryBackend where
  contents_of_reset_error _ _ h := nomatch h

instance : FaithfulBackend FaultyBackend where
  contents_of_reset_error b e h := by
    simp only [Backend.reset] at h ⊢
    split at h
    · cases h
    · rfl

/-! ### Calls -/

namespace Store

inductive Call where
  | record (row : Row)
  | instances
  | rows
  | rowsOf (instanceName : String)
  | clear
  | beginRound

inductive CallResult where
  | recorded (answer : RecordAnswer)
  | names (answer : Except StoreError (List String))
  | rows (answer : Except StoreError (List Row))
  | settled (answer : Except StoreError Unit)

def CallResult.isFailure : CallResult → Bool
  | .recorded answer => answer != .stored
  | .names answer => !answer.isOk
  | .rows answer => !answer.isOk
  | .settled answer => !answer.isOk

/-- Whether a call is there to clear the backend. -/
def Call.isClear : Call → Bool
  | .clear | .beginRound => true
  | _ => false

variable {β : Type} [Backend β]

/-- Whether a backend fails a number of resets, one after the other. -/
def resetsFail : Nat → β → Bool
  | 0, _ => true
  | n + 1, b => !(Backend.reset b).1.isOk && resetsFail n (Backend.reset b).2

/-- Whether the backend fails what a call asks of it. The beginning of a round asks for nothing if
no clear is owed, and else for resets until one succeeds. -/
def fails (s : Store β) : Call → Bool
  | .record row => (Backend.insert s.backend row).1 != .stored
  | .instances => !(Backend.selectInstances s.backend).1.isOk
  | .rows | .rowsOf _ => !(Backend.selectRows s.backend).1.isOk
  | .clear => !(Backend.reset s.backend).1.isOk
  | .beginRound => s.clearOwed && resetsFail maxClearAttempts s.backend

def perform (s : Store β) : Call → CallResult × Store β
  | .record row => (.recorded (s.record row).answer, (s.record row).store)
  | .instances => (.names s.instances.answer, s.instances.store)
  | .rows => (.rows s.rows.answer, s.rows.store)
  | .rowsOf name => (.rows (s.rowsOf name).answer, (s.rowsOf name).store)
  | .clear => (.settled s.clear.answer, s.clear.store)
  | .beginRound => (.settled s.beginRound.answer, s.beginRound.store)

/-- A call, whether a clear was owed before it, whether the backend failed it, and its result. -/
structure Transaction where
  call : Call
  owed : Bool
  failed : Bool
  result : CallResult

/-- An insertion or a select that the backend failed. -/
def Transaction.isMiss (t : Transaction) : Bool := t.failed && !t.call.isClear

/-- The row that a transaction put into the store. -/
def Transaction.stored? (t : Transaction) : Option Row :=
  match t.call, t.result with
  | .record row, .recorded .stored => some row
  | _, _ => none

/-- Whether the backend was cleared. A round begins without a clear if none is owed. -/
def Transaction.clears (t : Transaction) : Bool :=
  match t.call with
  | .clear => !t.failed
  | .beginRound => t.owed && !t.failed
  | _ => false

def transact (s : Store β) (c : Call) : Transaction :=
  ⟨c, s.clearOwed, s.fails c, (s.perform c).1⟩

/-- The transactions of some calls, one call after the other, and the store afterwards. -/
def run (s : Store β) (calls : List Call) : List Transaction × Store β :=
  calls.foldl (fun p c => (p.1 ++ [p.2.transact c], (p.2.perform c).2)) ([], s)

def history (s : Store β) (calls : List Call) : List Transaction := (s.run calls).1

def after (s : Store β) (calls : List Call) : Store β := (s.run calls).2

theorem history_concat (s : Store β) (calls : List Call) (c : Call) :
    s.history (calls ++ [c]) = s.history calls ++ [(s.after calls).transact c] := by
  simp [history, after, run, List.foldl_append]

theorem after_concat (s : Store β) (calls : List Call) (c : Call) :
    s.after (calls ++ [c]) = ((s.after calls).perform c).2 := by
  simp [after, run, List.foldl_append]

end Store

/-! ### Ledgers -/

open Store (Call CallResult Transaction)

/-- Two transactions of one call that the backend fails in both or in neither. -/
structure Store.Transaction.Parallel (t u : Transaction) : Prop where
  call : t.call = u.call
  failed : t.failed = u.failed

/-- Parallel transactions with one answer, but for an error that the backend gave. -/
structure Store.Transaction.Agrees (t u : Transaction) : Prop where
  parallel : t.Parallel u
  owed : t.owed = u.owed
  result : t.failed = false ∨ t.call = .beginRound → t.result = u.result

theorem exists_concat_of_forall₂ {α γ : Type} {R : α → γ → Prop} {l : List α} {a : α} {m : List γ}
    (h : List.Forall₂ R (l ++ [a]) m) : ∃ m' b, m = m' ++ [b] ∧ List.Forall₂ R l m' ∧ R a b := by
  have hr := List.forall₂_reverse_iff.2 h
  rw [List.reverse_append, List.reverse_singleton, List.singleton_append] at hr
  cases hm : m.reverse with
  | nil =>
    rw [hm] at hr
    cases hr
  | cons b m' =>
    rw [hm] at hr
    cases hr with
    | cons hab hrest =>
      refine ⟨m'.reverse, b, ?_, ?_, hab⟩
      · rw [← List.reverse_reverse m, hm, List.reverse_cons]
      · rw [← List.reverse_reverse l]
        exact List.forall₂_reverse_iff.2 hrest

structure Ledger where
  rows : List Row := []
  clearOwed : Bool := false
  failedClears : Nat := 0

namespace Ledger

/-- What a call answers on a ledger, if the backend fails it and if it does not, and the ledger that
it leaves. -/
inductive Step (l : Ledger) : Call → Bool → CallResult → Ledger → Prop
  | stored (row : Row) :
      Step l (.record row) false (.recorded .stored) { l with rows := l.rows ++ [row] }
  | missed (row : Row) (answer : RecordAnswer) : answer ≠ .stored →
      Step l (.record row) true (.recorded answer) l
  | instances : Step l .instances false (.names (.ok (instancesOf l.rows))) l
  | noInstances (e : StoreError) : Step l .instances true (.names (.error e)) l
  | rows : Step l .rows false (.rows (.ok l.rows)) l
  | noRows (e : StoreError) : Step l .rows true (.rows (.error e)) l
  | rowsOf (name : String) :
      Step l (.rowsOf name) false (.rows (.ok (l.rows.filter (·.instanceName == name)))) l
  | noRowsOf (name : String) (e : StoreError) : Step l (.rowsOf name) true (.rows (.error e)) l
  | cleared : Step l .clear false (.settled (.ok ())) {}
  | notCleared (e : StoreError) : Step l .clear true (.settled (.error e))
      { l with clearOwed := true, failedClears := l.failedClears + 1 }
  | nothingOwed : l.clearOwed = false → Step l .beginRound false (.settled (.ok ())) l
  | paid : l.clearOwed = true → Step l .beginRound false (.settled (.ok ())) {}
  | stillOwed : l.clearOwed = true → Step l .beginRound true
      (.settled (.error (.clearFailed (l.failedClears + maxClearAttempts))))
      { l with failedClears := l.failedClears + maxClearAttempts }

/-- Steps one after the other, the last one at the end. -/
inductive Steps (l : Ledger) : List Transaction → Ledger → Prop
  | start : Steps l [] l
  | snoc {h : List Transaction} {l' l'' : Ledger} {c : Call} {failed : Bool} {r : CallResult} :
      Steps l h l' → Step l' c failed r l'' →
        Steps l (h ++ [⟨c, l'.clearOwed, failed, r⟩]) l''

variable {l l' l'' : Ledger} {c : Call} {failed : Bool} {r r' : CallResult}

/-- A call fails if the backend fails it, and only then. -/
theorem Step.isFailure_eq (h : Step l c failed r l') : r.isFailure = failed := by
  cases h with
  | missed row answer hne => exact bne_iff_ne.2 hne
  | _ => rfl

/-- A failed insertion or select leaves the ledger as it is. -/
theorem Step.of_isMiss (h : Step l c failed r l')
    (hmiss : (Transaction.mk c l.clearOwed failed r).isMiss = true) : l' = l := by
  cases h with
  | stored row => cases hmiss
  | cleared => cases hmiss
  | notCleared e => cases hmiss
  | paid ho => cases hmiss
  | stillOwed ho => cases hmiss
  | _ => rfl

/-- A call and whether the backend fails it fix the ledger that is left, and the answer but for an
error of the backend. -/
theorem Step.unique (h : Step l c failed r l') (h' : Step l c failed r' l'') :
    l' = l'' ∧ (failed = false ∨ c = .beginRound → r = r') := by
  cases h <;> cases h' <;> simp_all

theorem Steps.of_concat {h : List Transaction} {t : Transaction} (hs : Steps l (h ++ [t]) l') :
    ∃ before, Steps l h before ∧ t.owed = before.clearOwed ∧
      Step before t.call t.failed t.result l' := by
  generalize hn : h ++ [t] = h' at hs
  cases hs with
  | start => simp at hn
  | snoc hs hstep =>
    obtain ⟨rfl, ht⟩ := List.append_inj' hn rfl
    cases ht
    exact ⟨_, hs, rfl, hstep⟩

/-- Calls that fail alike leave one ledger and are answered alike. -/
theorem Steps.agree {h h' : List Transaction} (hs : Steps l h l') (hs' : Steps l h' l'')
    (hp : List.Forall₂ Transaction.Parallel h h') :
    l' = l'' ∧ List.Forall₂ Transaction.Agrees h h' := by
  induction hs generalizing h' l'' with
  | start =>
    cases hp
    generalize hn : ([] : List Transaction) = h at hs'
    cases hs' with
    | start => exact ⟨rfl, .nil⟩
    | snoc _ _ => simp at hn
  | snoc hs hstep ih =>
    obtain ⟨others, t, rfl, hothers, ht⟩ := exists_concat_of_forall₂ hp
    obtain ⟨before, hbefore, howed, hstep'⟩ := hs'.of_concat
    obtain ⟨rfl, hagree⟩ := ih hbefore hothers
    rw [← ht.call, ← ht.failed] at hstep'
    obtain ⟨rfl, hresult⟩ := hstep.unique hstep'
    exact ⟨rfl, List.rel_append hagree (.cons ⟨ht, howed.symm, hresult⟩ .nil)⟩

/-- Without its failed insertions and selects a history leads to the same ledger. -/
theorem Steps.filter_isMiss {h : List Transaction} (hs : Steps l h l') :
    Steps l (h.filter fun t => !t.isMiss) l' := by
  induction hs with
  | start => exact .start
  | @snoc h l' l'' c failed r _ hstep ih =>
    rw [List.filter_append]
    cases hmiss : (Transaction.mk c l'.clearOwed failed r).isMiss with
    | true =>
      rw [hstep.of_isMiss hmiss]
      simpa [hmiss] using ih
    | false =>
      simpa [hmiss] using ih.snoc hstep

/-! ### The rows of a ledger -/

/-- The transactions behind the last one that cleared the backend. -/
def sinceClear (h : List Transaction) : List Transaction := h.rtakeWhile fun t => !t.clears

theorem Step.rows_eq (h : Step l c failed r l') :
    l'.rows = (if (Transaction.mk c l.clearOwed failed r).clears then [] else l.rows) ++
      (Transaction.mk c l.clearOwed failed r).stored?.toList := by
  cases h <;> simp_all [Transaction.clears, Transaction.stored?]

theorem sinceClear_concat (h : List Transaction) (t : Transaction) :
    sinceClear (h ++ [t]) = if t.clears then [] else sinceClear h ++ [t] := by
  rw [sinceClear, List.rtakeWhile_concat]
  cases t.clears with
  | true => rfl
  | false => rfl

/-- The rows are those that were stored behind the last clear, in the order of the calls. -/
theorem Steps.rows_eq {h : List Transaction} (hs : Steps l h l') :
    l'.rows = (if h.any Transaction.clears then [] else l.rows) ++
      (sinceClear h).filterMap Transaction.stored? := by
  induction hs with
  | start => simp [sinceClear]
  | @snoc h l' l'' c failed r _ hstep ih =>
    rw [hstep.rows_eq, ih, sinceClear_concat, List.any_append, List.any_cons, List.any_nil,
      Bool.or_false]
    cases hc : (Transaction.mk c l'.clearOwed failed r).clears with
    | true =>
      -- A call that clears the backend stores no row.
      have hstored : (Transaction.mk c l'.clearOwed failed r).stored? = none := by
        cases hstep <;> first | rfl | cases hc
      simp [hstored]
    | false =>
      rw [Bool.or_false, if_neg Bool.false_ne_true, if_neg Bool.false_ne_true,
        List.filterMap_append, List.append_assoc]
      cases ht : (Transaction.mk c l'.clearOwed failed r).stored? with
      | none => simp [ht]
      | some row => simp [ht]

end Ledger

/-! ### A store keeps its ledger -/

namespace Store

open Ledger (Step Steps sinceClear)

variable {β : Type} [Backend β]

/-- A row is taken if the backend takes it. -/
theorem record_answer (s : Store β) (row : Row) :
    (s.record row).answer = .stored ↔ (Backend.insert s.backend row).1 = .stored := by
  unfold record
  split
  · next b hb => simp [hb]
  · next m b hb => simp [hb]
  · next e b hb => simp [hb]

/-- A clear is one reset of the backend. -/
theorem clear_asks_reset (s : Store β) :
    s.clear.answer.isOk = (Backend.reset s.backend).1.isOk ∧
      s.clear.store.backend = (Backend.reset s.backend).2 := by
  unfold clear
  split
  · next b hb =>
    rw [hb]
    exact ⟨rfl, rfl⟩
  · next e b hb =>
    rw [hb]
    exact ⟨rfl, rfl⟩

section Faithful

variable [FaithfulBackend β]

def ledger (s : Store β) : Ledger := ⟨s.contents, s.clearOwed, s.failedClears⟩

theorem alike_of_ledger_eq {s t : Store β} (h : t.ledger = s.ledger) : s.Alike t :=
  ⟨congrArg Ledger.rows h, congrArg Ledger.clearOwed h, congrArg Ledger.failedClears h⟩

theorem Alike.ledger_eq {s t : Store β} (h : s.Alike t) : t.ledger = s.ledger := by
  rw [ledger, ledger, h.contents, h.clearOwed, h.failedClears]

theorem step_record (s : Store β) (row : Row) :
    s.ledger.Step (.record row) (s.fails (.record row)) (.recorded (s.record row).answer)
      (s.record row).store.ledger := by
  have hledger : (s.record row).store.ledger =
      { s.ledger with rows := (s.record row).store.contents } := by
    unfold record
    split <;> rfl
  rw [hledger, s.contents_record row]
  by_cases ha : (s.record row).answer = .stored
  · have hfails : s.fails (.record row) = false :=
      bne_eq_false_iff_eq.2 ((s.record_answer row).1 ha)
    rw [hfails, if_pos ha, ha]
    exact .stored row
  · have hfails : s.fails (.record row) = true := bne_iff_ne.2 (mt (s.record_answer row).2 ha)
    rw [hfails, if_neg ha, List.append_nil]
    exact .missed row _ ha

/-- A read is answered as the backend answers it. -/
theorem step_instances (s : Store β) :
    s.ledger.Step .instances (s.fails .instances) (.names s.instances.answer)
      s.instances.store.ledger := by
  have hanswer : s.instances.answer = (Backend.selectInstances s.backend).1 := rfl
  rw [s.alike_instances.ledger_eq, hanswer, fails]
  cases h : (Backend.selectInstances s.backend).1 with
  | error e => exact .noInstances e
  | ok l =>
    rw [LawfulBackend.selectInstances_eq s.backend l h]
    exact .instances

theorem alike_rows (s : Store β) : s.Alike s.rows.store :=
  ⟨LawfulBackend.contents_selectRows s.backend, rfl, rfl⟩

theorem step_rows (s : Store β) :
    s.ledger.Step .rows (s.fails .rows) (.rows s.rows.answer) s.rows.store.ledger := by
  have hanswer : s.rows.answer = (Backend.selectRows s.backend).1 := rfl
  rw [s.alike_rows.ledger_eq, hanswer, fails]
  cases h : (Backend.selectRows s.backend).1 with
  | error e => exact .noRows e
  | ok l =>
    rw [LawfulBackend.selectRows_eq s.backend l h]
    exact .rows

theorem step_rowsOf (s : Store β) (name : String) :
    s.ledger.Step (.rowsOf name) (s.fails (.rowsOf name)) (.rows (s.rowsOf name).answer)
      (s.rowsOf name).store.ledger := by
  have hanswer : (s.rowsOf name).answer =
      (Backend.selectRows s.backend).1.map (·.filter (·.instanceName == name)) := rfl
  rw [(s.alike_rowsOf name).ledger_eq, hanswer, fails]
  cases h : (Backend.selectRows s.backend).1 with
  | error e => exact .noRowsOf name e
  | ok l =>
    rw [LawfulBackend.selectRows_eq s.backend l h]
    exact .rowsOf name

theorem ledger_clear (s : Store β) :
    s.clear.answer = .ok () ∧ s.clear.store.ledger = {} ∨
      ∃ e, s.clear.answer = .error e ∧ s.clear.store.ledger =
        { s.ledger with clearOwed := true, failedClears := s.failedClears + 1 } := by
  unfold clear
  split
  · next b hb =>
    have h := LawfulBackend.contents_reset s.backend (by rw [hb])
    rw [hb] at h
    refine .inl ⟨rfl, ?_⟩
    simp only [ledger, contents, h]
  · next e b hb =>
    have h := FaithfulBackend.contents_of_reset_error s.backend e (by rw [hb])
    rw [hb] at h
    refine .inr ⟨e, rfl, ?_⟩
    simp only [ledger, contents, h]

theorem step_clear (s : Store β) :
    s.ledger.Step .clear (s.fails .clear) (.settled s.clear.answer) s.clear.store.ledger := by
  rw [fails, ← s.clear_asks_reset.1]
  rcases s.ledger_clear with ⟨ha, hl⟩ | ⟨e, ha, hl⟩
  · rw [ha, hl]
    exact .cleared
  · rw [ha, hl]
    exact .notCleared e

/-- An owed clear is paid by a reset that succeeds, or all attempts at it have failed. -/
theorem ledger_clearWithin (n : Nat) (s : Store β) (howed : s.clearOwed = true) :
    resetsFail n s.backend = false ∧ (s.clearWithin n).answer = .ok () ∧
        (s.clearWithin n).store.ledger = {} ∨
      resetsFail n s.backend = true ∧
        (s.clearWithin n).answer = .error (.clearFailed (s.failedClears + n)) ∧
        (s.clearWithin n).store.ledger =
          { s.ledger with failedClears := s.failedClears + n } := by
  induction n generalizing s with
  | zero => exact .inr ⟨rfl, rfl, rfl⟩
  | succ n ih =>
    obtain ⟨hreset, hbackend⟩ := s.clear_asks_reset
    rw [resetsFail, ← hreset, ← hbackend]
    rcases s.ledger_clear with ⟨ha, hl⟩ | ⟨e, ha, hl⟩
    · left
      simpa only [clearWithin, ha] using ⟨rfl, trivial, hl⟩
    · have hfailed : s.clear.store.failedClears = s.failedClears + 1 :=
        congrArg Ledger.failedClears hl
      have h := ih s.clear.store (congrArg Ledger.clearOwed hl)
      rw [hl, hfailed, Nat.add_assoc, Nat.add_comm 1 n] at h
      have herror : (Except.error e : Except StoreError Unit).isOk = false := rfl
      simpa [clearWithin, ha, herror, ledger, howed] using h

theorem step_beginRound (s : Store β) :
    s.ledger.Step .beginRound (s.fails .beginRound) (.settled s.beginRound.answer)
      s.beginRound.store.ledger := by
  have hfails : s.fails .beginRound =
      (s.clearOwed && resetsFail maxClearAttempts s.backend) := rfl
  rw [hfails]
  unfold beginRound
  split
  · next ho =>
    dsimp only
    rw [ho, Bool.true_and]
    rcases s.ledger_clearWithin maxClearAttempts ho with ⟨hr, ha, hl⟩ | ⟨hr, ha, hl⟩
    · rw [hr, ha, hl]
      exact .paid ho
    · rw [hr, ha, hl]
      exact .stillOwed ho
  · next ho =>
    rw [Bool.eq_false_iff.2 ho, Bool.false_and]
    exact .nothingOwed (Bool.eq_false_iff.2 ho)

/-- Whatever fails, a call of a store is a step of its ledger. -/
theorem step_perform (s : Store β) (c : Call) :
    s.ledger.Step c (s.fails c) (s.perform c).1 (s.perform c).2.ledger := by
  cases c with
  | record row => exact s.step_record row
  | instances => exact s.step_instances
  | rows => exact s.step_rows
  | rowsOf name => exact s.step_rowsOf name
  | clear => exact s.step_clear
  | beginRound => exact s.step_beginRound

/-- Any calls of a store are steps of its ledger. -/
theorem steps_run (s : Store β) (calls : List Call) :
    Steps s.ledger (s.history calls) (s.after calls).ledger := by
  induction calls using List.reverseRecOn with
  | nil => exact .start
  | append_singleton calls c ih =>
    rw [history_concat, after_concat]
    exact ih.snoc ((s.after calls).step_perform c)

/-! ### What reads give -/

/-- What a store over some rows answers to reads, whenever the backend can read. The rows of the
instances are all rows, each in one instance. -/
structure Shows (s : Store β) (rows : List Row) : Prop where
  all : ∀ l, (Backend.selectRows s.backend).1 = .ok l → s.rows.answer = .ok rows
  instances : ∀ l, (Backend.selectInstances s.backend).1 = .ok l →
    ∃ names, s.instances.answer = .ok names ∧ FirstSeen names (rows.map (·.instanceName)) ∧
      (names.flatMap fun name => rows.filter (·.instanceName == name)).Perm rows
  rowsOf : ∀ l, (Backend.selectRows s.backend).1 = .ok l →
    ∀ name, (s.rowsOf name).answer = .ok (rows.filter (·.instanceName == name))

theorem shows_contents (s : Store β) : s.Shows s.contents where
  all l h := by
    rw [LawfulBackend.selectRows_eq s.backend l h] at h
    exact h
  instances l h := by
    rw [LawfulBackend.selectInstances_eq s.backend l h] at h
    exact ⟨_, h, firstSeen_eraseDups _, perm_byInstance s.contents⟩
  rowsOf l h name := by
    rw [LawfulBackend.selectRows_eq s.backend l h] at h
    exact congrArg (Except.map (·.filter (·.instanceName == name))) h

/-! ### Any calls, any failures -/

/-- After any calls a store has the rows that were stored since its backend was last cleared, in the
order of the calls, and shows them. A call fails just if the backend fails it. What fails to insert
or to select changes nothing, and all other calls are answered as if it had never been tried. -/
theorem after_keeps_ledger (s : Store β) (calls : List Call) :
    (s.after calls).contents =
        (if (s.history calls).any Transaction.clears then [] else s.contents) ++
          (sinceClear (s.history calls)).filterMap Transaction.stored? ∧
      (s.after calls).Shows (s.after calls).contents ∧
      (∀ c, ((s.after calls).perform c).1.isFailure = (s.after calls).fails c) ∧
      (∀ c, ((s.after calls).transact c).isMiss = true →
        (s.after calls).Alike ((s.after calls).perform c).2) ∧
      ((s.after calls).clearOwed = false →
        (s.after calls).perform .beginRound = (.settled (.ok ()), s.after calls)) ∧
      ∀ {γ : Type} [Backend γ] [FaithfulBackend γ] (u : Store γ) (others : List Call),
        u.ledger = s.ledger →
        List.Forall₂ Transaction.Parallel (u.history others)
          ((s.history calls).filter fun t => !t.isMiss) →
        (u.after others).ledger = (s.after calls).ledger ∧
          List.Forall₂ Transaction.Agrees (u.history others)
            ((s.history calls).filter fun t => !t.isMiss) := by
  have hs := s.steps_run calls
  refine ⟨hs.rows_eq, (s.after calls).shows_contents, ?_, ?_, ?_, ?_⟩
  · exact fun c => ((s.after calls).step_perform c).isFailure_eq
  · intro c hmiss
    exact alike_of_ledger_eq (((s.after calls).step_perform c).of_isMiss hmiss)
  · intro howed
    simp [perform, beginRound, howed]
  · intro γ _ _ u others hu hp
    have hu' := u.steps_run others
    rw [hu] at hu'
    exact hu'.agree hs.filter_isMiss hp

/-- A store whose backend breaks off at the metric `boom` and refuses one reset. -/
def faultyStore : Store FaultyBackend := { backend := { refusedResets := 1 } }

/-- A store whose backend refuses to read. -/
def blindStore : Store FaultyBackend := { backend := { refusesSelects := true } }

def faultyCalls : List Call :=
  [.record ⟨"a", "m", 1⟩, .rows, .record ⟨"a", "boom", 2⟩, .clear, .record ⟨"b", "m", 3⟩]

/-- Reads give all rows but the one that broke off, the refused clear being owed, and a read that
fails changes as little as the row that was lost. -/
theorem after_keeps_ledger_faulty :
    (faultyStore.after faultyCalls).rows.answer = .ok [⟨"a", "m", 1⟩, ⟨"b", "m", 3⟩] ∧
      ((faultyStore.after faultyCalls).rowsOf "b").answer = .ok [⟨"b", "m", 3⟩] ∧
      (∃ names, (faultyStore.after faultyCalls).instances.answer = .ok names ∧
        FirstSeen names ["a", "b"]) ∧
      (faultyStore.after [.record ⟨"a", "m", 1⟩, .rows, .clear, .record ⟨"b", "m", 3⟩]).ledger =
        ⟨[⟨"a", "m", 1⟩, ⟨"b", "m", 3⟩], true, 1⟩ ∧
      (blindStore.after [.record ⟨"a", "m", 1⟩]).fails .rows = true ∧
      ((blindStore.after [.record ⟨"a", "m", 1⟩]).perform .rows).1.isFailure = true ∧
      (blindStore.after [.record ⟨"a", "m", 1⟩]).Alike
        ((blindStore.after [.record ⟨"a", "m", 1⟩]).perform .rows).2 := by
  obtain ⟨hrows, hshows, -, -, -, hwithout⟩ := after_keeps_ledger faultyStore faultyCalls
  have hcontents : (faultyStore.after faultyCalls).contents =
      [⟨"a", "m", 1⟩, ⟨"b", "m", 3⟩] := hrows
  rw [hcontents] at hshows
  obtain ⟨names, hnames, hfirst, -⟩ := hshows.instances _ rfl
  obtain ⟨hledger, -⟩ := hwithout faultyStore
    [.record ⟨"a", "m", 1⟩, .rows, .clear, .record ⟨"b", "m", 3⟩] rfl
    (.cons ⟨rfl, rfl⟩ (.cons ⟨rfl, rfl⟩ (.cons ⟨rfl, rfl⟩ (.cons ⟨rfl, rfl⟩ .nil))))
  obtain ⟨-, -, hfails, hmissed, -, -⟩ := after_keeps_ledger blindStore [.record ⟨"a", "m", 1⟩]
  refine ⟨hshows.all _ rfl, hshows.rowsOf _ rfl "b", ⟨names, hnames, hfirst⟩, hledger.trans ?_, rfl,
    hfails .rows, hmissed .rows rfl⟩
  rw [ledger, hcontents]
  rfl

end Faithful

end Store

end HostTelemetry
