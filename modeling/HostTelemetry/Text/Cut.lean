/-!
# Cutting a text at a mark

`cutFirst` and `cutLast` take a text apart at the first and at the last place where a character
stands; putting the two parts together around it gives the text back. `pieces` takes it apart at
every such place.
-/

namespace HostTelemetry.Text

/-- The parts before and after the first `mark`. -/
def cutFirst (mark : Char) : List Char → Option (List Char × List Char)
  | [] => none
  | c :: r =>
    if c = mark then some ([], r)
    else (cutFirst mark r).map fun p => (c :: p.1, p.2)

/-- The parts before and after the last `mark`. -/
def cutLast (mark : Char) : List Char → Option (List Char × List Char)
  | [] => none
  | c :: r =>
    match cutLast mark r with
    | some p => some (c :: p.1, p.2)
    | none => if c = mark then some ([], r) else none

/-- The pieces between the places where a character stands; one more than there are such places. -/
def pieces (mark : Char) : List Char → List (List Char)
  | [] => [[]]
  | c :: r =>
    if c = mark then [] :: pieces mark r
    else
      match pieces mark r with
      | [] => [[c]]
      | p :: ps => (c :: p) :: ps

/-- Whether `fragment` stands somewhere in the text. -/
def occursIn (fragment : List Char) : List Char → Bool
  | [] => fragment.isEmpty
  | c :: r => fragment.isPrefixOf (c :: r) || occursIn fragment r

theorem eq_of_cutFirst {mark : Char} {s a b : List Char} (h : cutFirst mark s = some (a, b)) :
    s = a ++ mark :: b ∧ mark ∉ a := by
  induction s generalizing a b with
  | nil => simp [cutFirst] at h
  | cons c r ih =>
    by_cases hc : c = mark
    · simp [cutFirst, hc] at h
      obtain ⟨rfl, rfl⟩ := h
      simp [hc]
    · simp only [cutFirst, hc, if_false, Option.map_eq_some_iff, Prod.mk.injEq] at h
      obtain ⟨p, hp, rfl, rfl⟩ := h
      obtain ⟨he, hm⟩ := ih (a := p.1) (b := p.2) hp
      refine ⟨by simp [he], ?_⟩
      simp only [List.mem_cons, not_or]
      exact ⟨fun h => hc h.symm, hm⟩

theorem eq_of_cutLast {mark : Char} {s a b : List Char} (h : cutLast mark s = some (a, b)) :
    s = a ++ mark :: b := by
  induction s generalizing a b with
  | nil => simp [cutLast] at h
  | cons c r ih =>
    cases hr : cutLast mark r with
    | none =>
      simp only [cutLast, hr] at h
      split at h
      · next hc =>
        simp only [Option.some.injEq, Prod.mk.injEq] at h
        obtain ⟨rfl, rfl⟩ := h
        simp [hc]
      · simp at h
    | some p =>
      simp only [cutLast, hr, Option.some.injEq, Prod.mk.injEq] at h
      obtain ⟨rfl, rfl⟩ := h
      simp [ih (a := p.1) (b := p.2) hr]

theorem cutFirst_append {mark : Char} {a : List Char} (h : mark ∉ a) (b : List Char) :
    cutFirst mark (a ++ mark :: b) = some (a, b) := by
  induction a with
  | nil => simp [cutFirst]
  | cons c r ih =>
    rw [List.mem_cons, not_or] at h
    rw [List.cons_append, cutFirst, if_neg (Ne.symm h.1), ih h.2, Option.map_some]

theorem cutFirst_eq_some_iff {mark : Char} {s a b : List Char} :
    cutFirst mark s = some (a, b) ↔ s = a ++ mark :: b ∧ mark ∉ a :=
  ⟨eq_of_cutFirst, fun ⟨hs, ha⟩ => hs ▸ cutFirst_append ha b⟩

theorem cutLast_eq_none_iff {mark : Char} {s : List Char} :
    cutLast mark s = none ↔ mark ∉ s := by
  induction s with
  | nil => simp [cutLast]
  | cons c r ih =>
    rw [cutLast, List.mem_cons, not_or, ← ih]
    cases cutLast mark r with
    | some p => simp
    | none => simp [eq_comm]

theorem cutLast_append {mark : Char} {b : List Char} (a : List Char) (h : mark ∉ b) :
    cutLast mark (a ++ mark :: b) = some (a, b) := by
  induction a with
  | nil => rw [List.nil_append, cutLast, cutLast_eq_none_iff.2 h, if_pos rfl]
  | cons c r ih => rw [List.cons_append, cutLast, ih]

theorem not_mem_of_cutLast {mark : Char} {s a b : List Char} (h : cutLast mark s = some (a, b)) :
    mark ∉ b := by
  induction s generalizing a b with
  | nil => cases h
  | cons c r ih =>
    rw [cutLast] at h
    cases hr : cutLast mark r with
    | some p =>
      rw [hr] at h
      obtain ⟨-, rfl⟩ := Prod.mk.inj (Option.some.inj h)
      exact ih hr
    | none =>
      rw [hr, Option.ite_none_right_eq_some] at h
      obtain ⟨-, rfl⟩ := Prod.mk.inj (Option.some.inj h.2)
      exact cutLast_eq_none_iff.1 hr

theorem cutLast_eq_some_iff {mark : Char} {s a b : List Char} :
    cutLast mark s = some (a, b) ↔ s = a ++ mark :: b ∧ mark ∉ b :=
  ⟨fun h => ⟨eq_of_cutLast h, not_mem_of_cutLast h⟩, fun ⟨hs, hb⟩ => hs ▸ cutLast_append a hb⟩

end HostTelemetry.Text
