import HostTelemetry.Decimal.Shortest
import Mathlib

/-!
# Rounding of doubles

Rounding takes a mantissa with what is left behind it to the nearest double. The numbers that round
to a double are those of its interval: half a unit to either side, a quarter below the smallest
mantissa where the unit below is half as large, and the ends if the mantissa is even.
-/

namespace HostTelemetry.Double

open Float.Model Float.Model.UnpackedFloat
open Float.Model.UnpackedFloat.ExtendedMantissa (ofMantissaAndAccuracy)

/-! ### Where a number lies -/

/-- A mantissa with its two residual bits says where a number lies: at the mantissa, below, at or
above the middle between the mantissa and the next one. -/
def Locates (em : ExtendedMantissa) (q : ℚ) : Prop :=
  match em.roundBit, em.stickyBit with
  | false, false => q = em.mantissa
  | false, true => em.mantissa < q ∧ q < em.mantissa + 1 / 2
  | true, false => q = em.mantissa + 1 / 2
  | true, true => em.mantissa + 1 / 2 < q ∧ q < em.mantissa + 1

variable {em : ExtendedMantissa} {q : ℚ}

theorem Locates.bounds (h : Locates em q) : em.mantissa ≤ q ∧ q < em.mantissa + 1 := by
  obtain ⟨m, roundBit, stickyBit⟩ := em
  cases roundBit <;> cases stickyBit <;> simp only [Locates] at h ⊢ <;> constructor <;> linarith

theorem Locates.shiftRightOne (h : Locates em q) : Locates em.shiftRightOne (q / 2) := by
  obtain ⟨m, roundBit, stickyBit⟩ := em
  have hdiv : (m : ℚ) = 2 * (m / 2 : Nat) + (m % 2 : Nat) := by
    exact_mod_cast (Nat.div_add_mod m 2).symm
  rcases Nat.mod_two_eq_zero_or_one m with h2 | h2
  · have hbit : (m % 2 != 0) = false := by simp [h2]
    rw [h2, Nat.cast_zero, add_zero] at hdiv
    cases roundBit <;> cases stickyBit <;>
      simp only [Locates, ExtendedMantissa.shiftRightOne, hbit, hdiv, Bool.or_true, Bool.or_false]
        at h ⊢ <;> first | linarith | constructor <;> linarith
  · have hbit : (m % 2 != 0) = true := by simp [h2]
    rw [h2, Nat.cast_one] at hdiv
    cases roundBit <;> cases stickyBit <;>
      simp only [Locates, ExtendedMantissa.shiftRightOne, hbit, hdiv, Bool.or_true, Bool.or_false]
        at h ⊢ <;> first | linarith | constructor <;> linarith

theorem Locates.shiftRight (h : Locates em q) (k : Nat) : Locates (em >>> k) (q / 2 ^ k) := by
  induction k with
  | zero =>
    rw [pow_zero, div_one]
    exact h
  | succ k ih =>
    rw [pow_succ, ← div_div]
    exact ih.shiftRightOne

theorem locates_exact (m : Nat) : Locates (ofMantissaAndAccuracy m .exact) m := rfl

theorem locates_ofFraction (a : Nat) {b : Nat} (hb : 0 < b) :
    Locates (ofMantissaAndAccuracy (a / b) (accuracyOfFraction (a % b) b)) (a / b) := by
  have hpos : (0 : ℚ) < b := by exact_mod_cast hb
  have hdiv : (a : ℚ) / b = (a / b : Nat) + (a % b : Nat) / b := by
    rw [eq_comm, ← eq_sub_iff_add_eq', div_eq_iff hpos.ne', sub_mul, div_mul_cancel₀ _ hpos.ne',
      eq_sub_iff_add_eq']
    exact_mod_cast Nat.div_add_mod' a b
  have hlt : ((a % b : Nat) : ℚ) / b < 1 := by
    rw [div_lt_one hpos]
    exact_mod_cast Nat.mod_lt a hb
  rw [hdiv]
  unfold accuracyOfFraction
  by_cases h0 : a % b = 0
  · simp [h0, Locates, ofMantissaAndAccuracy]
  · have hrest : (0 : ℚ) < (a % b : Nat) / b :=
      div_pos (by exact_mod_cast Nat.pos_of_ne_zero h0) hpos
    rw [if_neg h0]
    cases hc : compare (2 * (a % b)) b with
    | lt =>
      have hhalf : ((a % b : Nat) : ℚ) / b < 1 / 2 := by
        have hnat := Nat.compare_eq_lt.1 hc
        rw [div_lt_div_iff₀ hpos two_pos]
        exact_mod_cast (by omega : a % b * 2 < 1 * b)
      simp only [Locates, ofMantissaAndAccuracy]
      exact ⟨by linarith, by linarith⟩
    | eq =>
      have hhalf : ((a % b : Nat) : ℚ) / b = 1 / 2 := by
        have hnat := Nat.compare_eq_eq.1 hc
        rw [div_eq_div_iff hpos.ne' two_ne_zero]
        exact_mod_cast (by omega : a % b * 2 = 1 * b)
      simp only [Locates, ofMantissaAndAccuracy]
      rw [hhalf]
    | gt =>
      have hhalf : 1 / 2 < ((a % b : Nat) : ℚ) / b := by
        have hnat := Nat.compare_eq_gt.1 hc
        rw [div_lt_div_iff₀ two_pos hpos]
        exact_mod_cast (by omega : 1 * b < a % b * 2)
      simp only [Locates, ofMantissaAndAccuracy]
      exact ⟨by linarith, by linarith⟩

/-- Rounding takes the number that is nearest; of two that are equally near the even one. -/
theorem Locates.roundedMantissa (h : Locates em q) {m : Nat} (hlow : m - 1 / 2 ≤ q)
    (hhigh : q ≤ m + 1 / 2) (hodd : m % 2 = 1 → m - 1 / 2 < q ∧ q < m + 1 / 2) :
    em.roundedMantissa = m := by
  obtain ⟨n, roundBit, stickyBit⟩ := em
  have hcases : m = n ∨ m = n + 1 := by
    have hb := h.bounds
    dsimp only at hb
    have hle : n < m + 1 := by exact_mod_cast (by linarith : (n : ℚ) < m + 1)
    have hge : m < n + 2 := by exact_mod_cast (by linarith : (m : ℚ) < n + 2)
    omega
  -- The middle between two neighbours belongs to the even one.
  have hmiddle : q = n + 1 / 2 → m % 2 = 0 := by
    intro hq
    by_contra hne
    have hstrict := hodd (by omega)
    rcases hcases with rfl | rfl
    · linarith
    · push_cast at hstrict
      linarith
  cases roundBit with
  | false =>
    have hlt : q < n + 1 / 2 := by
      cases stickyBit <;> simp only [Locates] at h <;> linarith
    have hm : m = n := by
      rcases hcases with rfl | rfl
      · rfl
      · push_cast at hlow
        linarith
    rw [hm]
    cases stickyBit <;> rfl
  | true =>
    cases stickyBit with
    | false =>
      have heven := hmiddle h
      show n + n % 2 = m
      omega
    | true =>
      have hgt : n + 1 / 2 < q := h.1
      have hm : m = n + 1 := by
        rcases hcases with rfl | rfl
        · linarith
        · rfl
      rw [hm]
      rfl

/-! ### Doubles and the numbers that round to them -/

open HostTelemetry.Decimal (Binary)

/-- What the mantissa and the power of a positive double are. -/
structure Regular (b : Binary) : Prop where
  pos : 0 < b.mantissa
  lt : b.mantissa < 2 ^ 53
  least : -1074 ≤ b.power
  most : b.power ≤ 971
  full : 2 ^ 52 ≤ b.mantissa ∨ b.power = -1074
  thin : b.thin = true ↔ b.mantissa = 2 ^ 52 ∧ -1074 < b.power

/-- A number that rounds to a double. -/
structure Captures (b : Binary) (v : ℚ) : Prop where
  low : b.interval.low * 2 ^ (b.power - 2) ≤ v
  high : v ≤ b.interval.high * 2 ^ (b.power - 2)
  strict : b.mantissa % 2 = 1 →
    b.interval.low * 2 ^ (b.power - 2) < v ∧ v < b.interval.high * 2 ^ (b.power - 2)

theorem targetExponent_eq (p : Int) :
    Format.binary64.targetExponent p = max (p - 53) (-1074) := by
  simp only [Format.targetExponent, Format.mantissaBits, Format.minExponent]
  norm_num

/-- A number that is given with the unit that its size asks for. -/
structure Scaled (q : ℚ) (t : Int) : Prop where
  lt : q < 2 ^ 53
  least : -1074 ≤ t
  full : 2 ^ 52 ≤ q ∨ t = -1074

theorem two_zpow_pos (e : Int) : (0 : ℚ) < 2 ^ e := zpow_pos two_pos e

theorem two_zpow_add (e k : Int) : (2 : ℚ) ^ (e + k) = 2 ^ e * 2 ^ k :=
  zpow_add₀ two_ne_zero e k

variable {b : Binary}

theorem low_lt_middle (hpos : 0 < b.mantissa) : b.interval.low < b.interval.middle := by
  simp only [Binary.interval]
  split <;> omega

theorem middle_lt_high (b : Binary) : b.interval.middle < b.interval.high := by
  simp [Binary.interval]

theorem one_le_low (hpos : 0 < b.mantissa) : 1 ≤ b.interval.low := by
  simp only [Binary.interval]
  split <;> omega

theorem four_mul_le_low (b : Binary) : 4 * (b.mantissa : ℚ) - 2 ≤ b.interval.low := by
  have hlow : 4 * b.mantissa ≤ b.interval.low + 2 := by
    simp only [Binary.interval]
    split <;> omega
  have hcast : 4 * (b.mantissa : ℚ) ≤ b.interval.low + 2 := by exact_mod_cast hlow
  linarith

theorem high_eq (b : Binary) : (b.interval.high : ℚ) = 4 * b.mantissa + 2 := by
  simp [Binary.interval]

theorem captures_self (hb : Regular b) : Captures b (b.mantissa * 2 ^ b.power) := by
  have hu := two_zpow_pos (b.power - 2)
  have hvalue : (b.mantissa : ℚ) * 2 ^ b.power = b.interval.middle * 2 ^ (b.power - 2) := by
    rw [show b.power = b.power - 2 + 2 by omega, two_zpow_add, add_sub_cancel_right, Binary.interval]
    push_cast
    ring
  have hlow : (b.interval.low : ℚ) < b.interval.middle := by exact_mod_cast low_lt_middle hb.pos
  have hhigh : (b.interval.middle : ℚ) < b.interval.high := by exact_mod_cast middle_lt_high b
  have hgt := mul_lt_mul_of_pos_right hlow hu
  have hlt := mul_lt_mul_of_pos_right hhigh hu
  rw [hvalue]
  exact ⟨hgt.le, hlt.le, fun _ => ⟨hgt, hlt⟩⟩

theorem Regular.le_mantissa (hb : Regular b) (h : -1074 < b.power) :
    (2 ^ 52 : ℚ) ≤ b.mantissa := by
  exact_mod_cast hb.full.resolve_right (by omega)

section Unit

variable {t : Int} (hb : Regular b) (hq : Scaled q t) (h : Captures b (q * 2 ^ t))
include hb hq h

theorem Captures.unit_le : t ≤ b.power := by
  by_contra hlt
  have hleast := hb.least
  have hlarge : (2 : ℚ) ^ 52 ≤ q := hq.full.resolve_right (by omega)
  have hmantissa : (b.mantissa : ℚ) + 1 ≤ 2 ^ 53 := by exact_mod_cast hb.lt
  have hunit : (2 : ℚ) ^ (b.power - 2 + 3) ≤ 2 ^ t :=
    zpow_le_zpow_right₀ one_le_two (by omega)
  have hhigh : (2 : ℚ) ^ 52 * 2 ^ (b.power - 2 + 3) ≤ b.interval.high * 2 ^ (b.power - 2) :=
    (mul_le_mul hlarge hunit (two_zpow_pos _).le (by linarith)).trans h.high
  rw [two_zpow_add, mul_comm (2 ^ (b.power - 2)), ← mul_assoc, high_eq] at hhigh
  have hhigh' := le_of_mul_le_mul_right hhigh (two_zpow_pos _)
  linarith

theorem Captures.le_unit : b.power - 1 ≤ t := by
  by_contra hlt
  have hleast := hq.least
  have hlow := four_mul_le_low b
  have hlarge := hb.le_mantissa (by omega)
  have hunit : (2 : ℚ) ^ t ≤ 2 ^ (b.power - 2) := zpow_le_zpow_right₀ one_le_two (by omega)
  have hge : b.interval.low * (2 : ℚ) ^ (b.power - 2) < 2 ^ 53 * 2 ^ (b.power - 2) := by
    calc b.interval.low * (2 : ℚ) ^ (b.power - 2) ≤ q * 2 ^ t := h.low
      _ < 2 ^ 53 * 2 ^ t := mul_lt_mul_of_pos_right hq.lt (two_zpow_pos t)
      _ ≤ 2 ^ 53 * 2 ^ (b.power - 2) := mul_le_mul_of_nonneg_left hunit (by norm_num)
  have hge' := lt_of_mul_lt_mul_right hge (two_zpow_pos _).le
  linarith

omit hb hq in
theorem Captures.of_unit_eq (ht : t = b.power) :
    b.mantissa - 1 / 2 ≤ q ∧ q ≤ b.mantissa + 1 / 2 ∧
      (b.mantissa % 2 = 1 → b.mantissa - 1 / 2 < q ∧ q < b.mantissa + 1 / 2) := by
  have hu := two_zpow_pos (b.power - 2)
  have hlow := four_mul_le_low b
  have hunit : q * 2 ^ t = 4 * q * 2 ^ (b.power - 2) := by
    rw [show t = b.power - 2 + 2 by omega, two_zpow_add]
    ring
  obtain ⟨hge, hle, hstrict⟩ := h
  rw [high_eq, hunit] at hle hstrict
  rw [hunit] at hge
  refine ⟨?_, ?_, ?_⟩
  · linarith [le_of_mul_le_mul_right hge hu]
  · linarith [le_of_mul_le_mul_right hle hu]
  · intro hodd
    obtain ⟨hgt, hlt⟩ := hstrict hodd
    have hgt' := lt_of_mul_lt_mul_right hgt hu.le
    have hlt' := lt_of_mul_lt_mul_right hlt hu.le
    exact ⟨by linarith, by linarith⟩

theorem Captures.of_unit_below (ht : t = b.power - 1) :
    b.mantissa = 2 ^ 52 ∧ 2 ^ 53 - 1 / 2 ≤ q := by
  have hleast := hq.least
  have hlt := hq.lt
  have hlow := four_mul_le_low b
  have hunit : q * 2 ^ t = 2 * q * 2 ^ (b.power - 2) := by
    rw [show t = b.power - 2 + 1 by omega, two_zpow_add]
    ring
  have hge := h.low
  rw [hunit] at hge
  have hge' := le_of_mul_le_mul_right hge (two_zpow_pos _)
  have hm : b.mantissa = 2 ^ 52 := by
    have hle : (b.mantissa : ℚ) < 2 ^ 52 + 1 := by linarith
    have hnat : b.mantissa < 2 ^ 52 + 1 := by exact_mod_cast hle
    have hfull := hb.full.resolve_right (by omega)
    omega
  have hinterval : b.interval.low = 4 * 2 ^ 52 - 1 := by
    rw [Binary.interval, hb.thin.2 ⟨hm, by omega⟩, hm]
    rfl
  rw [hinterval] at hge'
  refine ⟨hm, ?_⟩
  norm_num at hge' ⊢
  linarith

end Unit

/-- The unit of a number that rounds to a double is the one of the double, or half of it and the
number lies just below. -/
theorem Captures.unit {t : Int} (hb : Regular b) (hq : Scaled q t) (h : Captures b (q * 2 ^ t)) :
    t = b.power ∧ b.mantissa - 1 / 2 ≤ q ∧ q ≤ b.mantissa + 1 / 2 ∧
        (b.mantissa % 2 = 1 → b.mantissa - 1 / 2 < q ∧ q < b.mantissa + 1 / 2) ∨
      t = b.power - 1 ∧ b.mantissa = 2 ^ 52 ∧ 2 ^ 53 - 1 / 2 ≤ q ∧ q < 2 ^ 53 := by
  have hle := h.unit_le hb hq
  have hge := h.le_unit hb hq
  rcases (by omega : t = b.power ∨ t = b.power - 1) with ht | ht
  · exact .inl ⟨ht, h.of_unit_eq ht⟩
  · obtain ⟨hm, hnear⟩ := h.of_unit_below hb hq ht
    exact .inr ⟨ht, hm, hnear, hq.lt⟩

/-! ### Rounding -/

theorem shift_of_lt {m : Nat} {e : Int} (hm : m < 2 ^ 53) (he : -1074 ≤ e) :
    shiftToTargetExponent .binary64 m e .exact = (⟨m, false, false⟩, e) := by
  have hlog : m.log2 ≤ 52 := by
    by_cases h : m = 0
    · simp [h]
    · have := (Nat.log2_lt h).2 hm
      omega
  have hshift : (Format.binary64.targetExponent (totalExponent m e) - e).toNat = 0 := by
    rw [targetExponent_eq, totalExponent]
    omega
  rw [shiftToTargetExponent, shiftToExponent, hshift]
  exact Prod.ext rfl (by simp)

theorem shift_full {e : Int} (he : -1074 ≤ e) :
    shiftToTargetExponent .binary64 (2 ^ 53) e .exact = (⟨2 ^ 52, false, false⟩, e + 1) := by
  have hshift : (Format.binary64.targetExponent (totalExponent (2 ^ 53) e) - e).toNat = 1 := by
    rw [targetExponent_eq, totalExponent, Nat.log2_two_pow]
    omega
  rw [shiftToTargetExponent, shiftToExponent, hshift]
  rfl

/-- A number that lies behind a mantissa is given with its unit by the shift to that unit. -/
theorem Locates.scaled {m k : Nat} {e t : Int} {accuracy : Accuracy}
    (h : Locates (ofMantissaAndAccuracy m accuracy) q) (hfine : 52 ≤ m.log2 ∨ e ≤ -1074)
    (ht : t = max (m.log2 + e - 52) (-1074)) (hk : e + k = t) : Scaled (q / 2 ^ k) t := by
  have hmantissa : (ofMantissaAndAccuracy m accuracy).mantissa = m := by
    rcases accuracy with _ | _ | _ | _ <;> rfl
  obtain ⟨hge, hlt⟩ := h.bounds
  rw [hmantissa] at hge hlt
  refine ⟨?_, by omega, ?_⟩
  · have hnat : m + 1 ≤ 2 ^ (53 + k) :=
      Nat.lt_log2_self.trans_le (Nat.pow_le_pow_right two_pos (by omega))
    have hcast : (m : ℚ) + 1 ≤ 2 ^ 53 * 2 ^ k := by
      rw [← pow_add]
      exact_mod_cast hnat
    rw [div_lt_iff₀ (by positivity)]
    linarith
  · by_cases hleast : t = -1074
    · exact .inr hleast
    · left
      have hlog : m.log2 = 52 + k := by omega
      have hnat : 2 ^ (52 + k) ≤ m := by
        rw [← hlog]
        refine Nat.log2_self_le ?_
        rintro rfl
        simp at hlog
        omega
      have hcast : (2 : ℚ) ^ 52 * 2 ^ k ≤ m := by
        rw [← pow_add]
        exact_mod_cast hnat
      rw [le_div_iff₀ (by positivity)]
      linarith

theorem shiftToTargetExponent_eq {m k : Nat} {e t : Int} (accuracy : Accuracy)
    (ht : t = max (m.log2 + e - 52) (-1074)) (hk : e + k = t) :
    shiftToTargetExponent .binary64 m e accuracy =
      (ofMantissaAndAccuracy m accuracy >>> k, t) := by
  have hamount : (t - e).toNat = k := by omega
  have htarget : max (totalExponent m e - 53) (-1074) = t := by
    rw [totalExponent]
    omega
  rw [shiftToTargetExponent, targetExponent_eq, htarget, shiftToExponent, hamount]
  exact Prod.ext rfl hk

/-- Rounding a number gives the double that it rounds to. -/
theorem roundWithAccuracy_eq (sign : Sign) {m : Nat} {e : Int} {accuracy : Accuracy}
    (hb : Regular b) (hloc : Locates (ofMantissaAndAccuracy m accuracy) q)
    (hfine : 52 ≤ m.log2 ∨ e ≤ -1074) (h : Captures b (q * 2 ^ e)) :
    roundWithAccuracy .binary64 sign m e accuracy = .finite sign b.mantissa b.power hb.pos := by
  obtain ⟨t, ht⟩ : ∃ t, t = max (m.log2 + e - 52) (-1074) := ⟨_, rfl⟩
  obtain ⟨k, hk⟩ : ∃ k : Nat, e + k = t := ⟨(t - e).toNat, by omega⟩
  have hscaled := hloc.scaled hfine ht hk
  have hshift := shiftToTargetExponent_eq accuracy ht hk
  have hvalue : q * 2 ^ e = q / 2 ^ k * 2 ^ t := by
    rw [← hk, two_zpow_add, zpow_natCast]
    field_simp
  rw [hvalue] at h
  have hround : ∀ {r : Nat}, (ofMantissaAndAccuracy m accuracy >>> k).roundedMantissa = r →
      shiftToTargetExponent .binary64 r t .exact = (⟨b.mantissa, false, false⟩, b.power) →
        roundWithAccuracy .binary64 sign m e accuracy =
          .finite sign b.mantissa b.power hb.pos := by
    intro r hr hcarry
    rw [roundWithAccuracy, hshift]
    dsimp only
    rw [hr, hcarry]
    exact dif_neg hb.pos.ne'
  rcases h.unit hb hscaled with ⟨hpower, hlow, hhigh, hodd⟩ | ⟨hpower, hm, hlow, hhigh⟩
  · refine hround ((hloc.shiftRight k).roundedMantissa hlow hhigh hodd) ?_
    rw [hpower]
    exact shift_of_lt hb.lt hb.least
  · have hcarry : (ofMantissaAndAccuracy m accuracy >>> k).roundedMantissa = 2 ^ 53 := by
      refine (hloc.shiftRight k).roundedMantissa ?_ ?_ ?_
      · exact_mod_cast hlow
      · norm_num at hhigh ⊢
        linarith
      · norm_num
    refine hround hcarry ?_
    rw [shift_full hscaled.least, hm, hpower]
    exact Prod.ext rfl (by simp)

end HostTelemetry.Double
