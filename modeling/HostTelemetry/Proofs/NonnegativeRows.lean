import HostTelemetry.Proofs.DerivedRows
import HostTelemetry.Proofs.DoubleOrder
import HostTelemetry.Proofs.MatchedReads

/-!
# Rows that are not negative

Counters are finite numbers that are not negative. An increase between two of them is one as well,
because a counter that fell counts as not having moved; what a quotient is taken of is positive, be
it another increase or the length of the window. Unit factors and sums over members keep what they
are given at 0 or above, so no row is negative and none is a NaN, however large it has become.
-/

namespace HostTelemetry

open Double (amount AtLeast)

/-! ### Increases and quotients -/

section Values

variable {b a n d : Float}

theorem counterDelta_nonneg (hb : b.isFinite = true) (ha : a.isFinite = true) (h0 : 0 ≤ amount b) :
    (counterDelta b a).isFinite = true ∧ 0 ≤ amount (counterDelta b a) := by
  unfold counterDelta
  split
  · exact Double.zero_nonneg
  · next hle =>
    rw [Double.lt_iff_amount ha hb, not_lt] at hle
    exact Double.sub_between ha hb h0 hle

theorem ratio_nonneg (hn : n.isFinite = true) (h0 : 0 ≤ amount n) : AtLeast 0 (ratio n d) := by
  unfold ratio
  split
  · next hpos => exact Double.atLeast_div hn h0 hpos
  · exact .inr Double.zero_nonneg

end Values

/-! ### Snapshots -/

/-- A snapshot whose every field is a finite number that is not negative. -/
def Snapshot.Nonnegative (s : Snapshot) : Prop :=
  ∀ name x, s.field? name = some x → x.isFinite = true ∧ 0.0 ≤ x

theorem Snapshot.Nonnegative.amount_nonneg {s : Snapshot} (h : s.Nonnegative) {name : String}
    {x : Float} (hx : s.field? name = some x) : x.isFinite = true ∧ 0 ≤ amount x := by
  obtain ⟨hfinite, hge⟩ := h name x hx
  exact ⟨hfinite, (Double.le_iff_amount (by decide +kernel) hfinite).1 hge⟩

theorem Fields.exists_mem_of_entry? {name : String} {v : Value} {l : List (String × Value)}
    (h : Fields.entry? name l = some v) : ∃ e ∈ l, e.2 = v := by
  induction l with
  | nil => cases h
  | cons e r ih =>
    unfold Fields.entry? at h
    split at h
    · exact ⟨e, List.mem_cons_self, Option.some.inj h⟩
    · obtain ⟨e', he', hv⟩ := ih h
      exact ⟨e', List.mem_cons_of_mem e he', hv⟩

theorem Snapshot.nonnegative_of_entries {s : Snapshot}
    (h : ∀ e ∈ s.fields.entries, e.2.number.isFinite = true ∧ 0.0 ≤ e.2.number) :
    s.Nonnegative := by
  intro name x hx
  obtain ⟨v, hv, rfl⟩ := Option.map_eq_some_iff.1 hx
  obtain ⟨e, he, rfl⟩ := Fields.exists_mem_of_entry? hv
  exact h e he

theorem increase_nonneg {before after : Snapshot} (hb : before.Nonnegative) (ha : after.Nonnegative)
    {field : String} {x : Float} (hx : increase? before after field = some x) :
    x.isFinite = true ∧ 0 ≤ amount x := by
  obtain ⟨b, hbefore, hx⟩ := Option.bind_eq_some_iff.1 hx
  obtain ⟨a, hafter, hx⟩ := Option.bind_eq_some_iff.1 hx
  obtain ⟨hbfinite, hb0⟩ := hb.amount_nonneg hbefore
  rw [← Option.some.inj hx]
  exact counterDelta_nonneg hbfinite (ha.amount_nonneg hafter).1 hb0

theorem Derivation.once_nonneg (d : Derivation) {s : Snapshot} {x : Float} (h : s.Nonnegative)
    (hx : d.once? s = some x) : AtLeast 0 x := by
  cases d with
  | gauge field => exact .inr (h.amount_nonneg hx)
  | gaugeRatio numerator denominator =>
    obtain ⟨n, hn, hx⟩ := Option.bind_eq_some_iff.1 hx
    obtain ⟨d, hd, hx⟩ := Option.bind_eq_some_iff.1 hx
    obtain ⟨hfinite, h0⟩ := h.amount_nonneg hn
    rw [← Option.some.inj hx]
    exact ratio_nonneg hfinite h0
  | rate field => cases hx
  | deltaRatio numerator denominator => cases hx

theorem Derivation.twice_nonneg (d : Derivation) {before after : Snapshot} {window : Duration}
    {x : Float} (hb : before.Nonnegative) (ha : after.Nonnegative)
    (hx : d.twice? before after window = some x) : AtLeast 0 x := by
  cases d with
  | gauge field => exact (Derivation.gauge field).once_nonneg ha hx
  | gaugeRatio numerator denominator =>
    exact (Derivation.gaugeRatio numerator denominator).once_nonneg ha hx
  | rate field =>
    obtain ⟨increase, hincrease, hx⟩ := Option.bind_eq_some_iff.1 hx
    obtain ⟨hfinite, h0⟩ := increase_nonneg hb ha hincrease
    rw [← Option.some.inj hx]
    split
    · next hpos => exact Double.atLeast_div hfinite h0 hpos
    · exact .inr Double.zero_nonneg
  | deltaRatio numerator denominator =>
    obtain ⟨n, hn, hx⟩ := Option.bind_eq_some_iff.1 hx
    obtain ⟨d, hd, hx⟩ := Option.bind_eq_some_iff.1 hx
    obtain ⟨hfinite, h0⟩ := increase_nonneg hb ha hn
    rw [← Option.some.inj hx]
    exact ratio_nonneg hfinite h0

/-! ### Rows -/

namespace FamilySpec

variable (spec : FamilySpec)

/-- Whether all unit factors are positive finite numbers. -/
def PositiveFactors : Prop := ∀ m ∈ spec.metrics, m.factor.isFinite = true ∧ 0.0 < m.factor

variable {spec}

theorem carries_nonneg (h : spec.PositiveFactors) :
    spec.Carries (AtLeast 0) (AtLeast 0) (AtLeast 0) where
  scale m hm x hx := by
    obtain ⟨hfinite, hpos⟩ := h m hm
    exact hx.mul Double.onScale_zero le_rfl hfinite ((Double.zero_lt_iff hfinite).1 hpos)
      (zero_mul _).ge
  single _ hx := hx
  add _ _ hx hy := hx.add Double.onScale_zero le_rfl hy

/-- Over counters that are not negative no row is negative and none is a NaN: neither where counters
fell or stood still, nor over a window of length 0, nor where the members of an instance are
summed. -/
theorem rows_nonneg (hfactors : spec.PositiveFactors) {before after : List Snapshot}
    (hbefore : ∀ s ∈ before, s.Nonnegative) (hafter : ∀ s ∈ after, s.Nonnegative)
    (window : Duration) :
    (∀ row ∈ deriveCumulative spec before after window,
      0.0 ≤ row.value ∧ row.value.isNaN = false) ∧
    ∀ row ∈ deriveInstantaneous spec after, 0.0 ≤ row.value ∧ row.value.isNaN = false := by
  have hcarries := carries_nonneg hfactors
  have hcumulative := hcarries.cumulative before after window
    fun p hp s hs d _ => d.twice_nonneg (hbefore p hp) (hafter s hs)
  have hinstantaneous := hcarries.instantaneous after
    fun s hs d _ => d.once_nonneg (hafter s hs)
  refine ⟨fun row hrow => ?_, fun row hrow => ?_⟩
  · exact ⟨Double.zero_le_iff.2 (hcumulative row hrow), (hcumulative row hrow).isNaN⟩
  · exact ⟨Double.zero_le_iff.2 (hinstantaneous row hrow), (hinstantaneous row hrow).isNaN⟩

theorem positiveFactors_catalog : ∀ spec ∈ catalog, spec.PositiveFactors := by
  have hall : ∀ spec ∈ catalog, ∀ m ∈ spec.metrics, m.factor.isFinite = true ∧ 0.0 < m.factor := by
    decide +kernel
  exact hall

/-- Where the later read comes first, every counter falls. -/
theorem rows_nonneg_reversed :
    processSpec.PositiveFactors ∧ (∀ s ∈ processesAfter, s.Nonnegative) ∧
      (∀ s ∈ processesBefore, s.Nonnegative) ∧
      deriveCumulative processSpec processesAfter processesBefore .zero =
        [⟨"nginx", "Process CPU Usage %", 0⟩, ⟨"nginx", "Process Memory Used MB", 2⟩] ∧
      ∀ row ∈ deriveCumulative processSpec processesAfter processesBefore .zero,
        0.0 ≤ row.value ∧ row.value.isNaN = false := by
  have hfactors : processSpec.PositiveFactors := positiveFactors_catalog _ (by simp [catalog])
  have hall : ∀ s ∈ processesAfter ++ processesBefore, ∀ e ∈ s.fields.entries,
      e.2.number.isFinite = true ∧ 0.0 ≤ e.2.number := by
    decide +kernel
  have hafter : ∀ s ∈ processesAfter, s.Nonnegative := fun s hs =>
    Snapshot.nonnegative_of_entries (hall s (List.mem_append_left _ hs))
  have hbefore : ∀ s ∈ processesBefore, s.Nonnegative := fun s hs =>
    Snapshot.nonnegative_of_entries (hall s (List.mem_append_right _ hs))
  exact ⟨hfactors, hafter, hbefore, by decide +kernel,
    (rows_nonneg hfactors hafter hbefore .zero).1⟩

end FamilySpec

end HostTelemetry
