import HostTelemetry.Store.Basic

/-!
# What a store holds

A lawful backend holds rows: a successful insertion adds one at the end, a successful reset leaves
none, and a select that succeeds gives them. Nothing is said about what a failed reset leaves
behind. Such a backend may fail whenever it wants, as its state decides that.

Between two rounds a store is settled: it holds no rows, or the clear that shall remove them is
owed.
-/

namespace HostTelemetry

class LawfulBackend (β : Type) [Backend β] where
  /-- The rows in the order of insertion. -/
  contents : β → List Row
  contents_insert : ∀ b row, contents (Backend.insert b row).2 =
    contents b ++ if (Backend.insert b row).1 = .stored then [row] else []
  contents_selectRows : ∀ b : β, contents (Backend.selectRows b).2 = contents b
  selectRows_eq : ∀ b l, (Backend.selectRows b).1 = .ok l → l = contents b
  contents_selectInstances : ∀ b : β, contents (Backend.selectInstances b).2 = contents b
  selectInstances_eq : ∀ b l, (Backend.selectInstances b).1 = .ok l → l = instancesOf (contents b)
  contents_reset : ∀ b : β, (Backend.reset b).1 = .ok () → contents (Backend.reset b).2 = []

instance : LawfulBackend MemoryBackend where
  contents := MemoryBackend.rows
  contents_insert _ _ := rfl
  contents_selectRows _ := rfl
  selectRows_eq _ _ h := (Except.ok.inj h).symm
  contents_selectInstances _ := rfl
  selectInstances_eq _ _ h := (Except.ok.inj h).symm
  contents_reset _ _ := rfl

instance : LawfulBackend FaultyBackend where
  contents := FaultyBackend.rows
  contents_insert b row := by
    simp only [Backend.insert]
    by_cases hm : (row.metric == b.breaking) = true
    · simp [hm]
    · by_cases hr : b.refusesInserts = true <;> simp [hm, hr]
  contents_selectRows _ := rfl
  selectRows_eq b l h := by
    simp only [Backend.selectRows] at h
    split at h
    · cases h
    · exact (Except.ok.inj h).symm
  contents_selectInstances _ := rfl
  selectInstances_eq b l h := by
    simp only [Backend.selectInstances] at h
    split at h
    · cases h
    · exact (Except.ok.inj h).symm
  contents_reset b h := by
    simp only [Backend.reset] at h ⊢
    split at h
    · rfl
    · cases h

variable {β : Type} [Backend β]

/-! ### Reads that succeed -/

/-- The states into which reads take a backend. -/
inductive ReadInto (b : β) : β → Prop
  | here : ReadInto b b
  | rows {b' : β} : ReadInto b b' → ReadInto b (Backend.selectRows b').2
  | instances {b' : β} : ReadInto b b' → ReadInto b (Backend.selectInstances b').2

/-- However often a backend is read, it answers. -/
def ReadsSucceed (b : β) : Prop :=
  ∀ b', ReadInto b b' →
    (∃ l, (Backend.selectRows b').1 = .ok l) ∧ ∃ l, (Backend.selectInstances b').1 = .ok l

theorem readsSucceed_memory (b : MemoryBackend) : ReadsSucceed b :=
  fun _ _ => ⟨⟨_, rfl⟩, ⟨_, rfl⟩⟩

namespace Store

variable [LawfulBackend β]

def contents (s : Store β) : List Row := LawfulBackend.contents s.backend

/-- Two stores with the same rows that owe the same. -/
structure Alike (s t : Store β) : Prop where
  contents : t.contents = s.contents
  clearOwed : t.clearOwed = s.clearOwed
  failedClears : t.failedClears = s.failedClears

theorem Alike.refl (s : Store β) : s.Alike s := ⟨rfl, rfl, rfl⟩

theorem Alike.trans {s t u : Store β} (hst : s.Alike t) (htu : t.Alike u) : s.Alike u :=
  ⟨htu.contents.trans hst.contents, htu.clearOwed.trans hst.clearOwed,
    htu.failedClears.trans hst.failedClears⟩

/-! ### Reading -/

theorem alike_instances (s : Store β) : s.Alike s.instances.store :=
  ⟨LawfulBackend.contents_selectInstances s.backend, rfl, rfl⟩

theorem instances_answer (s : Store β) {l : List String} (h : s.instances.answer = .ok l) :
    l = instancesOf s.contents :=
  LawfulBackend.selectInstances_eq s.backend l h

theorem alike_rowsOf (s : Store β) (name : String) : s.Alike (s.rowsOf name).store :=
  ⟨LawfulBackend.contents_selectRows s.backend, rfl, rfl⟩

theorem rowsOf_answer (s : Store β) (name : String) {l : List Row}
    (h : (s.rowsOf name).answer = .ok l) :
    l = s.contents.filter (·.instanceName == name) := by
  simp only [rowsOf] at h
  rcases hr : (Backend.selectRows s.backend).1 with e | rows
  · rw [hr] at h
    cases h
  · rw [hr] at h
    rw [← Except.ok.inj h, LawfulBackend.selectRows_eq s.backend rows hr, contents]

/-! ### Recording -/

theorem contents_record (s : Store β) (row : Row) :
    (s.record row).store.contents =
      s.contents ++ if (s.record row).answer = .stored then [row] else [] := by
  have h := LawfulBackend.contents_insert s.backend row
  unfold contents record
  split
  · next b hb => simpa [hb] using h
  · next m b hb => simpa [hb] using h
  · next e b hb => simpa [hb] using h

/-! ### Clearing -/

/-- No rows are left, or their removal is owed. -/
def Settled (s : Store β) : Prop := s.contents = [] ∨ s.clearOwed = true

theorem clear_cases (s : Store β) :
    s.clear.answer = .ok () ∧ s.clear.store.contents = [] ∧ s.clear.store.clearOwed = false ∨
      (∃ e, s.clear.answer = .error e) ∧ s.clear.store.clearOwed = true := by
  unfold clear
  split
  · next b hb =>
    refine .inl ⟨rfl, ?_, rfl⟩
    have h := LawfulBackend.contents_reset s.backend (by rw [hb])
    rwa [hb] at h
  · next e b hb => exact .inr ⟨⟨e, rfl⟩, rfl⟩

theorem settled_clear (s : Store β) : s.clear.store.Settled := by
  rcases s.clear_cases with ⟨-, h, -⟩ | ⟨-, h⟩
  · exact .inl h
  · exact .inr h

theorem clearWithin_cases (n : Nat) (s : Store β) (h : s.clearOwed = true) :
    (s.clearWithin n).answer = .ok () ∧ (s.clearWithin n).store.contents = [] ∨
      (∃ e, (s.clearWithin n).answer = .error e) ∧ (s.clearWithin n).store.clearOwed = true := by
  induction n generalizing s with
  | zero => exact .inr ⟨⟨_, rfl⟩, h⟩
  | succ n ih =>
    rcases s.clear_cases with ⟨ha, hc, -⟩ | ⟨⟨e, ha⟩, ho⟩
    · left
      simpa only [clearWithin, ha] using ⟨trivial, hc⟩
    · simpa only [clearWithin, ha] using ih s.clear.store ho

/-- A round begins over an empty store, or not at all. -/
theorem beginRound_cases (s : Store β) (h : s.Settled) :
    s.beginRound.answer = .ok () ∧ s.beginRound.store.contents = [] ∨
      (∃ e, s.beginRound.answer = .error e) ∧ s.beginRound.store.clearOwed = true := by
  unfold beginRound
  split
  · next ho => exact clearWithin_cases maxClearAttempts s ho
  · next ho => exact .inl ⟨rfl, h.resolve_right ho⟩

end Store

end HostTelemetry
