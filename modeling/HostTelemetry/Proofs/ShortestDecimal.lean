import HostTelemetry.Proofs.DecimalReading

/-!
# The shortest decimal

The search for the shortest decimal goes from coarse grids to fine ones, and the last grid that it
may try is finer than a quarter of the unit of the double. So it ends at a point of the interval,
which rounds to the double.
-/

namespace HostTelemetry.Decimal

open Double (Regular Captures)

/-! ### Points in an interval -/

theorem Interval.multiple?_mem {i : Interval} {tie : Tie} {scale unit d : Nat}
    (hlow : i.low < i.middle) (hhigh : i.middle < i.high) (hscale : 0 < scale) (hunit : 0 < unit)
    (h : i.multiple? tie scale unit = some d) :
    i.low * scale ≤ d * unit ∧ d * unit ≤ i.high * scale ∧
      (i.closed = false → i.low * scale < d * unit ∧ d * unit < i.high * scale) := by
  have hbelow : i.middle * scale / unit * unit ≤ i.middle * scale := Nat.div_mul_le_self ..
  have habove : i.middle * scale < (i.middle * scale / unit + 1) * unit := by
    rw [Nat.add_mul, Nat.one_mul]
    exact Nat.lt_div_mul_add hunit
  have hlow' : i.low * scale < i.middle * scale := Nat.mul_lt_mul_of_pos_right hlow hscale
  have hhigh' : i.middle * scale < i.high * scale := Nat.mul_lt_mul_of_pos_right hhigh hscale
  have hend : (d = i.middle * scale / unit ∧
        (if i.closed then i.low * scale ≤ d * unit else i.low * scale < d * unit)) ∨
      (d = i.middle * scale / unit + 1 ∧
        (if i.closed then d * unit ≤ i.high * scale else d * unit < i.high * scale)) := by
    simp only [multiple?, ite_eq_iff, Option.some.injEq, reduceCtorEq, and_false, or_false] at h
    rcases h with ⟨hfits, ⟨⟨hnext, -⟩, rfl⟩ | ⟨-, rfl⟩⟩ | ⟨-, hnext, rfl⟩
    · exact .inr ⟨rfl, hnext⟩
    · exact .inl ⟨rfl, hfits⟩
    · exact .inr ⟨rfl, hnext⟩
  cases hc : i.closed with
  | true =>
    simp only [hc, if_true] at hend
    have hnot : ¬(true = false) := Bool.noConfusion
    rcases hend with ⟨rfl, hfits⟩ | ⟨rfl, hfits⟩
    · exact ⟨hfits, by omega, fun h => absurd h hnot⟩
    · exact ⟨by omega, hfits, fun h => absurd h hnot⟩
  | false =>
    simp only [hc, Bool.false_eq_true, if_false] at hend
    rcases hend with ⟨rfl, hfits⟩ | ⟨rfl, hfits⟩
    · exact ⟨by omega, by omega, fun _ => ⟨hfits, by omega⟩⟩
    · exact ⟨by omega, by omega, fun _ => ⟨by omega, hfits⟩⟩

theorem Interval.isSome_multiple? {i : Interval} (tie : Tie) {scale unit : Nat}
    (hlow : i.low < i.middle) (hunit : 0 < unit) (h : unit ≤ scale) :
    (i.multiple? tie scale unit).isSome = true := by
  have habove : i.middle * scale < i.middle * scale / unit * unit + unit :=
    Nat.lt_div_mul_add hunit
  have hlow' : (i.low + 1) * scale ≤ i.middle * scale := Nat.mul_le_mul_right _ hlow
  rw [Nat.add_mul, Nat.one_mul] at hlow'
  have hfits : i.low * scale < i.middle * scale / unit * unit := by omega
  have hfits' : if i.closed then i.low * scale ≤ i.middle * scale / unit * unit
      else i.low * scale < i.middle * scale / unit * unit := by
    split
    · exact hfits.le
    · exact hfits
  simp only [multiple?]
  rw [if_pos hfits', apply_ite Option.isSome]
  exact ite_self true

/-! ### The search -/

def gridScale (power exponent : Int) : Nat := 2 ^ (power - 2).toNat * 10 ^ (-exponent).toNat

def gridUnit (power exponent : Int) : Nat := 2 ^ (-(power - 2)).toNat * 10 ^ exponent.toNat

theorem Interval.search_succ (i : Interval) (tie : Tie) (power : Int) (fuel : Nat)
    (exponent : Int) :
    i.search tie power (fuel + 1) exponent =
      match i.multiple? tie (gridScale power exponent) (gridUnit power exponent) with
      | some d => ⟨d, exponent⟩
      | none => i.search tie power fuel (exponent - 1) := rfl

/-- A search ends at a point of the grid where it stops. -/
theorem Interval.search_eq {i : Interval} {tie : Tie} {power : Int} {fuel k : Nat} {exponent : Int}
    (hk : k < fuel) (h : (i.multiple? tie (gridScale power (exponent - k))
      (gridUnit power (exponent - k))).isSome = true) :
    ∃ d e, i.search tie power fuel exponent = ⟨d, e⟩ ∧
      i.multiple? tie (gridScale power e) (gridUnit power e) = some d := by
  induction fuel generalizing k exponent with
  | zero => omega
  | succ fuel ih =>
    cases hd : i.multiple? tie (gridScale power exponent) (gridUnit power exponent) with
    | some d => exact ⟨d, exponent, by rw [search_succ, hd], hd⟩
    | none =>
      have hstep : i.search tie power (fuel + 1) exponent =
          i.search tie power fuel (exponent - 1) := by rw [search_succ, hd]
      rw [hstep]
      cases k with
      | zero => simp [hd] at h
      | succ k =>
        refine ih (k := k) (by omega) ?_
        rwa [show exponent - 1 - (k : Int) = exponent - (k + 1 : Nat) by omega]

/-- The last grid is finer than a quarter of the unit. -/
theorem gridUnit_le_gridScale {b : Binary} (hb : Regular b) :
    gridUnit b.power (b.ceiling - 23) ≤ gridScale b.power (b.ceiling - 23) := by
  have hleast := hb.least
  have hmost := hb.most
  have hlog : b.mantissa.log2 < 53 := (Nat.log2_lt hb.pos.ne').2 hb.lt
  have hceiling : 100000 * (b.ceiling - 1) ≤ (b.power + 54) * 30103 := by
    rw [Binary.ceiling]
    omega
  rw [gridUnit, gridScale]
  rcases Int.lt_or_le (b.ceiling - 23) 0 with he | he
  · have hgrid : 2 ^ (-(b.power - 2)).toNat ≤ 10 ^ (-(b.ceiling - 23)).toNat :=
      Double.two_pow_le_ten_pow (by omega)
    rw [show (b.ceiling - 23).toNat = 0 by omega, pow_zero, Nat.mul_one]
    exact hgrid.trans (Nat.le_mul_of_pos_left _ (Nat.two_pow_pos _))
  · have hgrid : 10 ^ (b.ceiling - 23).toNat ≤ 2 ^ (b.power - 2).toNat :=
      Double.ten_pow_le_two_pow (by omega)
    rw [show (-(b.power - 2)).toNat = 0 by omega, pow_zero, Nat.one_mul]
    exact hgrid.trans (Nat.le_mul_of_pos_right _ (by positivity))

/-- Scale and unit are a quarter and a grid step, both taken equally often. -/
theorem exists_grid (power exponent : Int) :
    ∃ c : ℚ, 0 < c ∧ (gridScale power exponent : ℚ) = 2 ^ (power - 2) * c ∧
      (gridUnit power exponent : ℚ) = 10 ^ exponent * c := by
  refine ⟨2 ^ (-(power - 2)).toNat * 10 ^ (-exponent).toNat, by positivity, ?_, ?_⟩
  · rw [gridScale, Double.zpow_eq_div two_ne_zero (power - 2)]
    push_cast
    field_simp
  · rw [gridUnit, Double.zpow_eq_div (by norm_num) exponent]
    push_cast
    field_simp

theorem captures_of_multiple? {b : Binary} (hb : Regular b) {tie : Tie} {d : Nat} {e : Int}
    (h : b.interval.multiple? tie (gridScale b.power e) (gridUnit b.power e) = some d) :
    Captures b (d * 10 ^ e) := by
  have hscale : 0 < gridScale b.power e := by
    rw [gridScale]
    positivity
  have hunit : 0 < gridUnit b.power e := by
    rw [gridUnit]
    positivity
  obtain ⟨hge, hle, hstrict⟩ := Interval.multiple?_mem
    (Double.low_lt_middle hb.pos) (Double.middle_lt_high b) hscale hunit h
  obtain ⟨c, hc, hscale, hunit⟩ := exists_grid b.power e
  have hquarter : ∀ n : Nat, (n : ℚ) * 2 ^ (b.power - 2) * c = (n * gridScale b.power e : Nat) := by
    intro n
    rw [Nat.cast_mul, hscale, mul_assoc]
  have hpoint : (d : ℚ) * 10 ^ e * c = (d * gridUnit b.power e : Nat) := by
    rw [Nat.cast_mul, hunit, mul_assoc]
  refine ⟨le_of_mul_le_mul_right ?_ hc, le_of_mul_le_mul_right ?_ hc, ?_⟩
  · rw [hquarter, hpoint]
    exact_mod_cast hge
  · rw [hquarter, hpoint]
    exact_mod_cast hle
  · intro hodd
    obtain ⟨hgt, hlt⟩ := hstrict (by simp [Binary.interval, hodd])
    refine ⟨lt_of_mul_lt_mul_right ?_ hc.le, lt_of_mul_lt_mul_right ?_ hc.le⟩
    · rw [hquarter, hpoint]
      exact_mod_cast hgt
    · rw [hquarter, hpoint]
      exact_mod_cast hlt

/-- The shortest decimal of a double rounds to it. -/
theorem captures_shortest (tie : Tie) {x : Float} (hb : Regular (Binary.ofDouble x)) :
    Captures (Binary.ofDouble x) (Double.value (shortest tie x)) := by
  have hunit : 0 < gridUnit (Binary.ofDouble x).power ((Binary.ofDouble x).ceiling - 23) := by
    rw [gridUnit]
    positivity
  have hlast := Interval.isSome_multiple? tie (Double.low_lt_middle hb.pos) hunit
    (gridUnit_le_gridScale hb)
  have hcount : 23 < gridCount := by decide
  obtain ⟨d, e, hsearch, hd⟩ := Interval.search_eq hcount hlast
  have hshortest : shortest tie x = ⟨d, e⟩ := hsearch
  rw [hshortest]
  exact captures_of_multiple? hb hd

end HostTelemetry.Decimal
