import HostTelemetry.Proofs.TextParts
import Mathlib.Data.List.DropRight

/-!
# Ends of texts

What is taken off the ends of a text goes up to the first character of another kind. So a text
without blanks at its ends is what is left of it between any blanks, and nothing else is.
-/

namespace HostTelemetry.Text

section Dropping

variable {α : Type} {p : α → Bool} {s w : List α}

theorem rdropWhile_cons (p : α → Bool) (c : α) (r : List α) :
    (c :: r).rdropWhile p =
      if r.rdropWhile p = [] ∧ p c = true then [] else c :: r.rdropWhile p := by
  induction r using List.reverseRecOn with
  | nil => simp [List.rdropWhile_singleton]
  | append_singleton r d ih =>
    rw [← List.cons_append, List.rdropWhile_concat, List.rdropWhile_concat]
    split
    · exact ih
    · simp

theorem dropWhile_eq_iff : s.dropWhile p = w ↔
    (∀ c ∈ w.head?, p c = false) ∧ ∃ before, s = before ++ w ∧ ∀ c ∈ before, p c = true := by
  constructor
  · rintro rfl
    refine ⟨fun c hc => ?_, s.takeWhile p, List.takeWhile_append_dropWhile.symm,
      fun c hc => List.mem_takeWhile_imp hc⟩
    have hnot := List.head?_dropWhile_not p s
    rwa [Option.mem_def.1 hc] at hnot
  · rintro ⟨hhead, before, rfl, hbefore⟩
    rw [List.dropWhile_append_of_pos hbefore]
    cases w with
    | nil => rfl
    | cons c r => exact List.dropWhile_cons_of_neg (by simp [hhead c rfl])

theorem rdropWhile_eq_iff : s.rdropWhile p = w ↔
    (∀ c ∈ w.getLast?, p c = false) ∧ ∃ behind, s = w ++ behind ∧ ∀ c ∈ behind, p c = true := by
  rw [List.rdropWhile, List.reverse_eq_iff, dropWhile_eq_iff, List.head?_reverse]
  refine and_congr_right fun _ => ⟨?_, ?_⟩
  · rintro ⟨before, hs, hbefore⟩
    refine ⟨before.reverse, ?_, fun c hc => hbefore c (List.mem_reverse.1 hc)⟩
    rw [List.reverse_eq_iff.1 hs, List.reverse_append, List.reverse_reverse]
  · rintro ⟨behind, rfl, hbehind⟩
    exact ⟨behind.reverse, List.reverse_append, fun c hc => hbehind c (List.mem_reverse.1 hc)⟩

end Dropping

/-! ### Trimmed texts -/

theorem trimEnd_eq_rdropWhile (s : List Char) : trimEnd s = s.rdropWhile isBlank := by
  induction s with
  | nil => rfl
  | cons c r ih =>
    rw [rdropWhile_cons, ← ih, trimEnd]
    cases trimEnd r <;> simp

/-- A text that neither begins nor ends with a blank. -/
structure IsTrimmed (s : List Char) : Prop where
  head : ∀ c ∈ s.head?, isBlank c = false
  last : ∀ c ∈ s.getLast?, isBlank c = false

theorem isTrimmed_trim (s : List Char) : IsTrimmed (trim s) := by
  have htrim : (trimStart s).rdropWhile isBlank = trim s := (trimEnd_eq_rdropWhile _).symm
  obtain ⟨hlast, behind, hstart, -⟩ := rdropWhile_eq_iff.1 htrim
  have hhead : ∀ c ∈ (trimStart s).head?, isBlank c = false := (dropWhile_eq_iff.1 rfl).1
  refine ⟨fun c hc => hhead c ?_, hlast⟩
  rw [hstart, List.head?_append, Option.mem_def.1 hc]
  rfl

theorem trim_between {before w behind : List Char} (hw : IsTrimmed w)
    (hbefore : ∀ c ∈ before, isBlank c = true) (hbehind : ∀ c ∈ behind, isBlank c = true) :
    trim (before ++ w ++ behind) = w := by
  cases w with
  | nil =>
    rw [trim_eq_nil_iff, List.append_nil, List.all_append, List.all_eq_true.2 hbefore,
      List.all_eq_true.2 hbehind, Bool.true_and]
  | cons d r =>
    have hstart : trimStart (before ++ (d :: r) ++ behind) = d :: r ++ behind :=
      dropWhile_eq_iff.2 ⟨hw.head, before, List.append_assoc .., hbefore⟩
    rw [trim, hstart, trimEnd_eq_rdropWhile]
    exact rdropWhile_eq_iff.2 ⟨hw.last, behind, rfl, hbehind⟩

end HostTelemetry.Text
