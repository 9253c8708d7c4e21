import HostTelemetry.Proofs.DerivedRows
import HostTelemetry.Proofs.DoubleOrder
import HostTelemetry.Proofs.KernelColumns
import HostTelemetry.Proofs.SamplingPass

/-!
# Finite rows

Differences, quotients, rates, unit factors and sums over the members of an instance keep the values
of moderate fields finite: a quotient is bounded because what it is divided by is 0 or a whole number
of units of the fields' grid, a rate because the window has a second at least, and a sum because one
summand is too small to be seen beside the bound of all of them.
-/

namespace HostTelemetry

open Double (amount Spans Within AtLeastOne)
open Kernel (IsField)

/-! ### Values -/

def Snapshot.InRange (s : Snapshot) : Prop := s.fields.Forall IsField

theorem Snapshot.InRange.spans {s : Snapshot} (h : s.InRange) {name : String} {x : Float}
    (hx : s.field? name = some x) : Spans x (-252) 256 := by
  obtain ⟨v, hv, rfl⟩ := Option.map_eq_some_iff.1 hx
  exact h name v hv

theorem within_zero {k : Int} : Within 0.0 k :=
  (Double.spans_zero (g := 0) (by decide +kernel) rfl).toWithin

theorem counterDelta_spans {before after : Float} (hb : Spans before (-252) 256)
    (ha : Spans after (-252) 256) : Spans (counterDelta before after) (-252) 257 := by
  unfold counterDelta
  split
  · exact Double.spans_zero (by decide +kernel) rfl
  · exact ha.sub hb (by norm_num) (by norm_num) (by norm_num)

theorem ratio_within {n d : Float} (hn : Spans n (-252) 257) (hd : Spans d (-252) 257) :
    Within (ratio n d) 509 := by
  unfold ratio
  split
  · next hpos =>
    exact hn.toWithin.div hd.finite ((Double.zero_lt_iff hd.finite).1 hpos) hd.onGrid
      (by norm_num) (by norm_num)
  · exact within_zero

theorem Derivation.once_within (d : Derivation) {s : Snapshot} {x : Float} (h : s.InRange)
    (hx : d.once? s = some x) : Within x 509 := by
  cases d with
  | gauge field => exact (h.spans hx).toWithin.mono (by norm_num)
  | gaugeRatio numerator denominator =>
    obtain ⟨n, hn, hx⟩ := Option.bind_eq_some_iff.1 hx
    obtain ⟨d, hd, hx⟩ := Option.bind_eq_some_iff.1 hx
    rw [← Option.some.inj hx]
    exact ratio_within ((h.spans hn).mono (by norm_num)) ((h.spans hd).mono (by norm_num))
  | rate field => cases hx
  | deltaRatio numerator denominator => cases hx

theorem increase_spans {before after : Snapshot} (hb : before.InRange) (ha : after.InRange)
    {field : String} {x : Float} (hx : increase? before after field = some x) :
    Spans x (-252) 257 := by
  obtain ⟨b, hbefore, hx⟩ := Option.bind_eq_some_iff.1 hx
  obtain ⟨a, hafter, hx⟩ := Option.bind_eq_some_iff.1 hx
  rw [← Option.some.inj hx]
  exact counterDelta_spans (hb.spans hbefore) (ha.spans hafter)

/-- However long the window is, also if its length in seconds is no double any more. -/
theorem atLeastOne_inSeconds {window : Duration} (h : 1 ≤ window.seconds) :
    AtLeastOne window.inSeconds := by
  have hnanos := window.nanos_lt
  obtain ⟨hn, hnumber⟩ := Double.settle_natCast (by omega) (Double.rounds_ofNat window.nanos)
  obtain ⟨hb, hbillion⟩ : (1000000000.0 : Float).isFinite = true ∧
      amount 1000000000.0 = (1000000000 : Nat) :=
    Double.settle_natCast (by norm_num) (Double.rounds_ofNat 1000000000)
  have hquotient := Double.rounds_div hn hb (by rw [hbillion]; norm_num)
  rw [hnumber, hbillion] at hquotient
  have hpositive : (0 : ℚ) ≤ window.nanos / (1000000000 : Nat) := by positivity
  have hless : (window.nanos : ℚ) / (1000000000 : Nat) ≤ 1 := by
    rw [div_le_one (by norm_num)]
    exact_mod_cast hnanos.le
  obtain ⟨hwithin, hnearest⟩ := hquotient.settle (k := 0)
    (by rw [abs_of_nonneg hpositive]; exact hless.trans (by norm_num)) (by norm_num) (by norm_num)
  exact (Double.atLeastOne_ofNat h).add hwithin.finite
    (hnearest.ge_of_ge Double.onScale_zero hpositive)

theorem Derivation.twice_within (d : Derivation) {before after : Snapshot} {window : Duration}
    {x : Float} (hb : before.InRange) (ha : after.InRange) (hw : 1 ≤ window.seconds)
    (hx : d.twice? before after window = some x) : Within x 509 := by
  cases d with
  | gauge field => exact (Derivation.gauge field).once_within ha hx
  | gaugeRatio numerator denominator =>
    exact (Derivation.gaugeRatio numerator denominator).once_within ha hx
  | rate field =>
    obtain ⟨increase, hincrease, hx⟩ := Option.bind_eq_some_iff.1 hx
    rw [← Option.some.inj hx]
    split
    · exact ((increase_spans hb ha hincrease).toWithin.div_atLeastOne (atLeastOne_inSeconds hw)
        (by norm_num) (by norm_num)).mono (by norm_num)
    · exact within_zero
  | deltaRatio numerator denominator =>
    obtain ⟨n, hn, hx⟩ := Option.bind_eq_some_iff.1 hx
    obtain ⟨d, hd, hx⟩ := Option.bind_eq_some_iff.1 hx
    rw [← Option.some.inj hx]
    exact ratio_within (increase_spans hb ha hn) (increase_spans hb ha hd)

/-! ### Rows -/

theorem factor_within {spec : FamilySpec} (hspec : spec ∈ catalog) {m : Metric}
    (hm : m ∈ spec.metrics) : Within m.factor 7 := by
  have hall : ∀ spec ∈ catalog, ∀ m ∈ spec.metrics, m.factor.isFinite = true ∧
      (Decimal.Binary.ofDouble m.factor).power ≤ 7 - 53 := by decide +kernel
  obtain ⟨hfinite, hpower⟩ := hall spec hspec m hm
  exact Double.within_of_power hfinite hpower

namespace FamilySpec

variable {spec : FamilySpec}

/-- One more row is too small to be seen beside the bound of a sum. -/
theorem carries_within (hspec : spec ∈ catalog) :
    spec.Carries (Within · 509) (Within · 516) (Within · 570) where
  scale _ hm _ hx := hx.mul (factor_within hspec hm) (by norm_num) (by norm_num)
  single _ hx := hx.mono (by norm_num)
  add _ _ hx hy := hx.add_small hy (by norm_num) (by norm_num)

theorem deriveInstantaneous_within (hspec : spec ∈ catalog) {snapshots : List Snapshot}
    (h : ∀ s ∈ snapshots, s.InRange) :
    ∀ row ∈ deriveInstantaneous spec snapshots, Within row.value 570 :=
  (carries_within hspec).instantaneous _ fun s hs d _ => d.once_within (h s hs)

theorem deriveCumulative_within (hspec : spec ∈ catalog) {before after : List Snapshot}
    {window : Duration} (hb : ∀ s ∈ before, s.InRange) (ha : ∀ s ∈ after, s.InRange)
    (hw : 1 ≤ window.seconds) :
    ∀ row ∈ deriveCumulative spec before after window, Within row.value 570 :=
  (carries_within hspec).cumulative _ _ _ fun p hp s hs d _ =>
    d.twice_within (hb p hp) (ha s hs) hw

end FamilySpec

/-! ### A pass -/

def CounterSource.InRange (source : CounterSource) : Prop :=
  ∀ earlier r snapshots, (source.read earlier r).result = .ok snapshots →
    ∀ s ∈ snapshots, s.InRange

namespace Sampling

variable {β : Type} (s : Sampling)

theorem rows_within {v : Visit} {rows : FamilyRows} (hspec : v.spec ∈ catalog)
    (hw : 1 ≤ s.window.seconds)
    (hanswers : ∀ l, s.firstLookup? v.opening = some l ∨ s.lastLookup? v = some l →
      ∀ snapshots, l.2 = .ok snapshots → ∀ t ∈ snapshots, t.InRange)
    (h : v.rows? s.window = some rows) : ∀ row ∈ rows.rows, Within row.value 570 := by
  cases v with
  | once spec answer =>
    cases answer with
    | error e => cases h
    | ok snapshots =>
      cases h
      exact FamilySpec.deriveInstantaneous_within hspec (hanswers _ (.inr rfl) snapshots rfl)
  | lost spec e => cases h
  | twice spec before answer =>
    cases answer with
    | error e => cases h
    | ok after =>
      cases h
      exact FamilySpec.deriveCumulative_within hspec (hanswers _ (.inl rfl) before rfl)
        (hanswers _ (.inr rfl) after rfl) hw

/-- A pass over a source whose every field is in range gives finite values only. -/
theorem sample_finite (hcatalog : s.families ⊆ catalog) (hw : 1 ≤ s.window.seconds)
    (w : Surroundings) (sc : Scene β) (hsource : w.source.InRange) :
    s.sample.Meets w sc fun r _ _ => ∀ sampled, r = .ok sampled →
      ∀ row ∈ sampled.flatMap (·.rows), row.value.isFinite = true := by
  obtain ⟨visits, hspecs, hcadence, hanswered⟩ := s.exists_pass w.source sc.progress.reads
  refine (s.sample_course visits hspecs hcadence hanswered).mono ?_
  intro r es _ hcourse sampled hr row hrow
  cases hcourse with
  | stopped _ _ => cases hr
  | finished =>
    cases hr
    obtain ⟨rows, hrows, hmem⟩ := List.mem_flatMap.1 hrow
    obtain ⟨v, hv, hsome⟩ := List.mem_filterMap.1 hrows
    have hspec : v.spec ∈ catalog := hcatalog (hspecs ▸ List.mem_map_of_mem hv)
    refine (s.rows_within hspec hw ?_ hsome row hmem).finite
    intro l hl snapshots hsnapshots
    have hlookup : l ∈ s.firstLookups visits ++ s.lastLookups visits := by
      rw [List.mem_append]
      exact hl.imp (fun hl => List.mem_filterMap.2 ⟨v, hv, hl⟩)
        fun hl => List.mem_filterMap.2 ⟨v, hv, hl⟩
    obtain ⟨earlier, hread⟩ := hanswered.exists_read hlookup
    exact hsource earlier l.1 snapshots (hread.trans hsnapshots)

end Sampling

end HostTelemetry
