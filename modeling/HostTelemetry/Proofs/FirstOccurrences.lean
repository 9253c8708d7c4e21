import Mathlib.Data.List.Induction
import Mathlib.Data.List.Nodup

/-!
# First occurrences

Names and series are kept once each, in the order in which they first occur. The lists grow at their
end: a new element joins the first occurrences, one that has been there changes nothing.
-/

namespace HostTelemetry

variable {α : Type} [BEq α] [LawfulBEq α]

theorem eraseDups_concat (l : List α) (a : α) :
    (l ++ [a]).eraseDups = l.eraseDups ++ if a ∈ l then [] else [a] := by
  rw [List.eraseDups_append]
  congr 1
  by_cases h : a ∈ l
  · have he : [a].removeAll l = [] := by simpa [List.removeAll] using h
    rw [he, if_pos h, List.eraseDups_nil]
  · have he : [a].removeAll l = [a] := by simpa [List.removeAll] using h
    rw [he, if_neg h]
    rfl

theorem nodup_eraseDups (l : List α) : l.eraseDups.Nodup := by
  induction l using List.reverseRecOn with
  | nil => exact List.nodup_nil
  | append_singleton l a ih =>
    rw [eraseDups_concat]
    by_cases h : a ∈ l
    · rw [if_pos h, List.append_nil]
      exact ih
    · have ha : a ∉ l.eraseDups := fun hm => h (List.mem_eraseDups.1 hm)
      rw [if_neg h, List.nodup_append]
      refine ⟨ih, List.nodup_singleton a, ?_⟩
      intro b hb c hc heq
      subst heq
      exact ha (List.mem_singleton.1 hc ▸ hb)

theorem length_eraseDups_le (l : List α) : l.eraseDups.length ≤ l.length := by
  induction l using List.reverseRecOn with
  | nil => exact Nat.le_refl _
  | append_singleton l a ih =>
    rw [eraseDups_concat, List.length_append, List.length_append]
    refine Nat.add_le_add ih ?_
    split
    · exact Nat.zero_le _
    · exact Nat.le_refl _

/-- Each element of a list once, in the order of first occurrence. -/
structure FirstSeen (firsts l : List α) : Prop where
  nodup : firsts.Nodup
  mem_iff : ∀ a, a ∈ firsts ↔ a ∈ l
  ordered : firsts.Pairwise fun a b => l.idxOf a < l.idxOf b

theorem firstSeen_eraseDups (l : List α) : FirstSeen l.eraseDups l where
  nodup := nodup_eraseDups l
  mem_iff _ := List.mem_eraseDups
  ordered := by
    induction l using List.reverseRecOn with
    | nil => exact .nil
    | append_singleton l a ih =>
      have hold : ∀ b ∈ l.eraseDups, (l ++ [a]).idxOf b = l.idxOf b := fun b hb =>
        List.idxOf_append_of_mem (List.mem_eraseDups.1 hb)
      have hl : l.eraseDups.Pairwise fun b c => (l ++ [a]).idxOf b < (l ++ [a]).idxOf c := by
        refine ih.imp_of_mem ?_
        intro b c hb hc hbc
        rwa [hold b hb, hold c hc]
      rw [eraseDups_concat]
      by_cases ha : a ∈ l
      · rwa [if_pos ha, List.append_nil]
      · rw [if_neg ha, List.pairwise_append]
        refine ⟨hl, List.pairwise_singleton .., ?_⟩
        intro b hb c hc
        rw [List.mem_singleton.1 hc, hold b hb, List.idxOf_append_of_notMem ha]
        have hlt := List.idxOf_lt_length_of_mem (List.mem_eraseDups.1 hb)
        omega

omit [LawfulBEq α] in
/-- There is one such list only. -/
theorem FirstSeen.unique {l firsts firsts' : List α} (h : FirstSeen firsts l)
    (h' : FirstSeen firsts' l) : firsts = firsts' := by
  have hperm : firsts.Perm firsts' := (List.perm_ext_iff_of_nodup h.nodup h'.nodup).2 fun a =>
    (h.mem_iff a).trans (h'.mem_iff a).symm
  exact List.Perm.eq_of_pairwise (fun _ _ _ _ hab hba => absurd hab (Nat.lt_asymm hba)) h.ordered
    h'.ordered hperm

theorem filter_beq_of_nodup {l : List α} (h : l.Nodup) (a : α) :
    l.filter (· == a) = if a ∈ l then [a] else [] := by
  have hc := List.filter_beq (l := l) a
  rw [List.Nodup.count h] at hc
  by_cases ha : a ∈ l
  · rw [if_pos ha] at hc ⊢
    exact hc
  · rw [if_neg ha] at hc ⊢
    exact hc

end HostTelemetry
