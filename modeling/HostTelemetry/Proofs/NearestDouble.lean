import HostTelemetry.Proofs.DoubleRounding

/-!
# The nearest double

Rounding gives the number on the scale of the doubles that is nearest to the exact one. What follows
for sizes needs nothing else about rounding: it keeps bounds that are on the scale themselves, it
loses what is far below such a bound, and it does not leave a grid.
-/

namespace HostTelemetry.Double

open Float.Model Float.Model.UnpackedFloat
open Float.Model.UnpackedFloat.ExtendedMantissa (ofMantissaAndAccuracy)

/-! ### The scale -/

/-- A number of at most 53 binary digits above the least unit, as large as it may be. -/
def OnScale (q : ℚ) : Prop := ∃ n t : Int, |n| < 2 ^ 53 ∧ -1074 ≤ t ∧ q = n * 2 ^ t

/-- A whole number of units of one size. -/
def OnGrid (g : Int) (q : ℚ) : Prop := ∃ n : Int, q = n * 2 ^ g

theorem onScale_zero : OnScale 0 := ⟨0, 0, by norm_num, by norm_num, by norm_num⟩

theorem onScale_two_zpow {k : Int} (hk : -1074 ≤ k) : OnScale (2 ^ k) :=
  ⟨1, k, by norm_num, hk, by norm_num⟩

theorem OnScale.neg {q : ℚ} (h : OnScale q) : OnScale (-q) := by
  obtain ⟨n, t, hn, ht, rfl⟩ := h
  exact ⟨-n, t, by rwa [abs_neg], ht, by push_cast; ring⟩

theorem two_zpow_eq_mul {g t : Int} (h : g ≤ t) :
    (2 : ℚ) ^ t = ((2 ^ (t - g).toNat : Int) : ℚ) * 2 ^ g := by
  rw [show t = g + ((t - g).toNat : Int) by omega, two_zpow_add, zpow_natCast]
  push_cast
  rw [show (g + ((t - g).toNat : Int) - g).toNat = (t - g).toNat by omega]
  ring

theorem OnGrid.of_le {g t : Int} {q : ℚ} (h : OnGrid t q) (hle : g ≤ t) : OnGrid g q := by
  obtain ⟨n, rfl⟩ := h
  refine ⟨n * 2 ^ (t - g).toNat, ?_⟩
  rw [two_zpow_eq_mul hle]
  push_cast
  ring

theorem OnGrid.add {g : Int} {p q : ℚ} (hp : OnGrid g p) (hq : OnGrid g q) : OnGrid g (p + q) := by
  obtain ⟨m, rfl⟩ := hp
  obtain ⟨n, rfl⟩ := hq
  exact ⟨m + n, by push_cast; ring⟩

theorem OnGrid.sub {g : Int} {p q : ℚ} (hp : OnGrid g p) (hq : OnGrid g q) : OnGrid g (p - q) := by
  obtain ⟨m, rfl⟩ := hp
  obtain ⟨n, rfl⟩ := hq
  exact ⟨m - n, by push_cast; ring⟩

/-- A positive number of the grid is not below its unit. -/
theorem OnGrid.le_of_pos {g : Int} {q : ℚ} (h : OnGrid g q) (hpos : 0 < q) : 2 ^ g ≤ q := by
  obtain ⟨n, rfl⟩ := h
  have hn : (0 : ℚ) < n := (mul_pos_iff_of_pos_right (two_zpow_pos g)).1 hpos
  have hone : (1 : ℚ) ≤ n := by exact_mod_cast hn
  exact le_mul_of_one_le_left (two_zpow_pos g).le hone

/-- Between a power of two and a multiple of it there is room for the first unit behind it. -/
theorem OnScale.gap {k : Int} {q : ℚ} (h : OnScale q) (hlt : 2 ^ k < q) :
    2 ^ k + 2 ^ (k - 52) ≤ q := by
  obtain ⟨n, t, hn, ht, rfl⟩ := h
  have hunit : k - 52 ≤ t := by
    by_contra hless
    have hbound : (n : ℚ) ≤ 2 ^ 53 := by
      have := (le_abs_self n).trans hn.le
      exact_mod_cast this
    have hsmall : (n : ℚ) * 2 ^ t ≤ 2 ^ k := by
      calc (n : ℚ) * 2 ^ t ≤ 2 ^ 53 * 2 ^ t := mul_le_mul_of_nonneg_right hbound (two_zpow_pos t).le
        _ = 2 ^ (t + 53) := by rw [two_zpow_add]; norm_num; ring
        _ ≤ 2 ^ k := zpow_le_zpow_right₀ one_le_two (by omega)
    exact absurd hlt (not_lt.2 hsmall)
  have hgrid : OnGrid (k - 52) (n * 2 ^ t - 2 ^ k) :=
    (OnGrid.of_le ⟨n, rfl⟩ hunit).sub (OnGrid.of_le ⟨1, by rw [Int.cast_one, one_mul]⟩ (by omega))
  have hpos : (0 : ℚ) < n * 2 ^ t - 2 ^ k := sub_pos.2 hlt
  linarith [hgrid.le_of_pos hpos]

/-! ### The nearest number on the scale -/

/-- The number that an unpacked double stands for, 0 if it is none. -/
def number : UnpackedFloat → ℚ
  | .finite sign m e _ => (sign.apply m : Int) * 2 ^ e
  | _ => 0

/-- A finite double as it is unpacked, except that it may be too large for its format. -/
inductive Canonical : UnpackedFloat → Prop
  | zero (sign : Sign) : Canonical (.zero sign)
  | finite (sign : Sign) {m : Nat} {e : Int} (hm : 0 < m) : m < 2 ^ 53 → -1074 ≤ e →
      2 ^ 52 ≤ m ∨ e = -1074 → Canonical (.finite sign m e hm)

/-- A finite double nearest to a number. -/
structure Nearest (u : UnpackedFloat) (q : ℚ) : Prop where
  canonical : Canonical u
  nearest : ∀ f, OnScale f → |number u - q| ≤ |f - q|

theorem abs_apply (sign : Sign) (m : Nat) : |sign.apply m| = m := by
  cases sign <;> simp [Sign.apply]

theorem Canonical.onScale {u : UnpackedFloat} (h : Canonical u) : OnScale (number u) := by
  cases h with
  | zero sign => exact onScale_zero
  | @finite sign m e hm hlt he hfull =>
    refine ⟨sign.apply m, e, ?_, he, rfl⟩
    rw [abs_apply]
    exact_mod_cast hlt

theorem Canonical.neg {u : UnpackedFloat} (h : Canonical u) : Canonical u.neg := by
  cases h with
  | zero sign => exact .zero (-sign)
  | @finite sign m e hm hlt he hfull => exact .finite (-sign) hm hlt he hfull

theorem apply_neg (sign : Sign) (n : Int) : (-sign).apply n = -sign.apply n :=
  match sign with
  | .negative => (neg_neg n).symm
  | .positive => rfl

theorem number_neg (u : UnpackedFloat) : number u.neg = -number u := by
  cases u with
  | finite sign m e hm =>
    rw [UnpackedFloat.neg, number, number, apply_neg, Int.cast_neg, neg_mul]
  | infinity | notANumber | zero => exact neg_zero.symm

theorem Canonical.nearest_self {u : UnpackedFloat} (h : Canonical u) : Nearest u (number u) where
  canonical := h
  nearest f _ := by
    rw [sub_self, abs_zero]
    exact abs_nonneg _

namespace Nearest

variable {u : UnpackedFloat} {q f : ℚ} {k : Int}

theorem le_of_le (h : Nearest u q) (hf : OnScale f) (hq : q ≤ f) : number u ≤ f := by
  by_contra hlt
  have hnear := h.nearest f hf
  rw [not_le] at hlt
  rw [abs_of_nonneg (by linarith), abs_of_nonneg (by linarith)] at hnear
  linarith

theorem ge_of_ge (h : Nearest u q) (hf : OnScale f) (hq : f ≤ q) : f ≤ number u := by
  by_contra hlt
  have hnear := h.nearest f hf
  rw [not_le] at hlt
  rw [abs_of_nonpos (by linarith), abs_of_nonpos (by linarith)] at hnear
  linarith

theorem eq_of_onScale (h : Nearest u q) (hq : OnScale q) : number u = q :=
  le_antisymm (h.le_of_le hq le_rfl) (h.ge_of_ge hq le_rfl)

theorem neg (h : Nearest u q) : Nearest u.neg (-q) where
  canonical := h.canonical.neg
  nearest f hf := by
    have hnear := h.nearest (-f) hf.neg
    rw [number_neg]
    calc |-number u - -q| = |number u - q| := by rw [neg_sub_neg, abs_sub_comm]
      _ ≤ |-f - q| := hnear
      _ = |f - -q| := by rw [← abs_neg, neg_sub, sub_neg_eq_add, sub_neg_eq_add, add_comm]

/-- A quarter of the last digit does not carry a number past a power of two. -/
theorem le_of_le_add (h : Nearest u q) (hk : -1074 ≤ k) (hq : q ≤ 2 ^ k + 2 ^ (k - 54)) :
    number u ≤ 2 ^ k := by
  by_contra hlt
  rw [not_le] at hlt
  have hgap := h.canonical.onScale.gap hlt
  have hnear := h.nearest (2 ^ k) (onScale_two_zpow hk)
  have hfour : (2 : ℚ) ^ (k - 52) = 4 * 2 ^ (k - 54) := by
    rw [show k - 52 = k - 54 + 2 by omega, two_zpow_add]
    norm_num
    ring
  have hpos := two_zpow_pos (k - 54)
  have hfar : 3 * 2 ^ (k - 54) ≤ |number u - q| :=
    le_trans (by linarith) (le_abs_self _)
  have hclose : |2 ^ k - q| < |number u - q| := by
    rcases le_total q (2 ^ k) with hle | hle
    · rw [abs_of_nonneg (by linarith), abs_of_nonneg (by linarith)]
      linarith
    · rw [abs_of_nonpos (by linarith)]
      linarith
  exact absurd hnear (not_le.2 hclose)

theorem abs_number_le_of_le_add (h : Nearest u q) (hk : -1074 ≤ k)
    (hq : |q| ≤ 2 ^ k + 2 ^ (k - 54)) : |number u| ≤ 2 ^ k := by
  obtain ⟨hlow, hhigh⟩ := abs_le.1 hq
  have hneg := h.neg.le_of_le_add hk (by linarith)
  rw [number_neg] at hneg
  exact abs_le.2 ⟨by linarith, h.le_of_le_add hk hhigh⟩

theorem onGrid {g : Int} (h : Nearest u q) (hg : -1074 ≤ g) (hq : OnGrid g q) :
    OnGrid g (number u) := by
  obtain ⟨j, rfl⟩ := hq
  rcases lt_or_ge |j| (2 ^ 53) with hsmall | hlarge
  · rw [h.eq_of_onScale ⟨j, g, hsmall, hg, rfl⟩]
    exact ⟨j, rfl⟩
  · -- So large a number has no digit below the unit of the grid.
    have hsize : (2 : ℚ) ^ (g + 53) ≤ |(j : ℚ) * 2 ^ g| := by
      rw [abs_mul, abs_of_pos (two_zpow_pos g), two_zpow_add, mul_comm]
      refine mul_le_mul_of_nonneg_right ?_ (two_zpow_pos g).le
      norm_num
      exact_mod_cast hlarge
    have hscale : OnScale (2 ^ (g + 53)) := onScale_two_zpow (by omega)
    have hnumber : (2 : ℚ) ^ (g + 53) ≤ |number u| := by
      rcases le_total 0 ((j : ℚ) * 2 ^ g) with hs | hs
      · rw [abs_of_nonneg hs] at hsize
        exact (h.ge_of_ge hscale hsize).trans (le_abs_self _)
      · rw [abs_of_nonpos hs] at hsize
        have := h.le_of_le hscale.neg (by linarith)
        exact le_trans (by linarith) (neg_le_abs _)
    obtain ⟨n, t, hn, -, heq⟩ := h.canonical.onScale
    rw [heq] at hnumber ⊢
    refine OnGrid.of_le ⟨n, rfl⟩ ?_
    by_contra hlt
    rw [abs_mul, abs_of_pos (two_zpow_pos t)] at hnumber
    have hcast : |(n : ℚ)| < 2 ^ 53 := by exact_mod_cast hn
    have hless : |(n : ℚ)| * 2 ^ t < 2 ^ (g + 53) := by
      calc |(n : ℚ)| * 2 ^ t < 2 ^ 53 * 2 ^ t := mul_lt_mul_of_pos_right hcast (two_zpow_pos t)
        _ = 2 ^ (t + 53) := by rw [two_zpow_add]; norm_num; ring
        _ ≤ 2 ^ (g + 53) := zpow_le_zpow_right₀ one_le_two (by omega)
    exact absurd hnumber (not_le.2 hless)

end Nearest

/-! ### Rounding -/

/-- A whole number at most one half away is at least as near as any other. -/
theorem abs_sub_le_of_le_half {y : ℚ} {r : Int} (h : |r - y| ≤ 1 / 2) (j : Int) :
    |r - y| ≤ |j - y| := by
  by_cases heq : j = r
  · rw [heq]
  · have hone : (1 : ℚ) ≤ |(j : ℚ) - r| := by
      have hne : 1 ≤ |j - r| := Int.one_le_abs (sub_ne_zero.2 heq)
      exact_mod_cast hne
    have htriangle : |(j : ℚ) - r| ≤ |j - y| + |r - y| := by
      have := abs_sub_le (j : ℚ) y r
      rwa [abs_sub_comm y r] at this
    linarith

theorem Locates.abs_roundedMantissa_sub_le {em : ExtendedMantissa} {y : ℚ} (h : Locates em y) :
    |(em.roundedMantissa : ℚ) - y| ≤ 1 / 2 := by
  obtain ⟨n, roundBit, stickyBit⟩ := em
  cases roundBit <;> cases stickyBit <;>
    simp only [Locates, ExtendedMantissa.roundedMantissa, ExtendedMantissa.accuracy,
      Accuracy.roundToNearestEven] at h ⊢
  · simp [h]
  · rw [abs_le]
    constructor <;> linarith
  · rcases Nat.mod_two_eq_zero_or_one n with h2 | h2 <;> rw [h2, h, abs_le] <;> push_cast <;>
      constructor <;> linarith
  · rw [abs_le]
    push_cast
    constructor <;> linarith

/-- Rounding to a unit of a number's size keeps what is nearest among the numbers of all sizes. -/
theorem Scaled.nearest {y : ℚ} {t : Int} (hy : Scaled y t) {r : Int} (hr : |(r : ℚ) - y| ≤ 1 / 2)
    {f : ℚ} (hf : OnScale f) : |(r : ℚ) * 2 ^ t - y * 2 ^ t| ≤ |f - y * 2 ^ t| := by
  have hwhole : ∀ j : Int, |(r : ℚ) * 2 ^ t - y * 2 ^ t| ≤ |(j : ℚ) * 2 ^ t - y * 2 ^ t| := by
    intro j
    rw [← sub_mul, ← sub_mul, abs_mul, abs_mul]
    exact mul_le_mul_of_nonneg_right (abs_sub_le_of_le_half hr j) (abs_nonneg _)
  obtain ⟨n, s, hn, hs, rfl⟩ := hf
  rcases le_or_gt t s with hle | hlt
  · rw [two_zpow_eq_mul hle, ← mul_assoc]
    exact_mod_cast hwhole (n * 2 ^ (s - t).toNat)
  · -- All numbers of a smaller unit lie below the smallest full mantissa.
    have hfull : (2 : ℚ) ^ 52 ≤ y := hy.full.resolve_right (by omega)
    have hcast : (n : ℚ) ≤ 2 ^ 53 := by
      have := (le_abs_self n).trans hn.le
      exact_mod_cast this
    have hbelow : (n : ℚ) * 2 ^ s ≤ 2 ^ 52 * 2 ^ t := by
      calc (n : ℚ) * 2 ^ s ≤ 2 ^ 53 * 2 ^ s :=
            mul_le_mul_of_nonneg_right hcast (two_zpow_pos s).le
        _ = 2 ^ 52 * 2 ^ (s + 1) := by rw [two_zpow_add]; norm_num; ring
        _ ≤ 2 ^ 52 * 2 ^ t :=
            mul_le_mul_of_nonneg_left (zpow_le_zpow_right₀ one_le_two (by omega)) (by norm_num)
    have habove : (2 : ℚ) ^ 52 * 2 ^ t ≤ y * 2 ^ t :=
      mul_le_mul_of_nonneg_right hfull (two_zpow_pos t).le
    have hmantissa := hwhole (2 ^ 52)
    rw [show ((2 ^ 52 : Int) : ℚ) = 2 ^ 52 by norm_num] at hmantissa
    calc |(r : ℚ) * 2 ^ t - y * 2 ^ t| ≤ |(2 : ℚ) ^ 52 * 2 ^ t - y * 2 ^ t| := hmantissa
      _ = y * 2 ^ t - 2 ^ 52 * 2 ^ t := by rw [abs_of_nonpos (sub_nonpos.2 habove), neg_sub]
      _ ≤ y * 2 ^ t - (n : ℚ) * 2 ^ s := sub_le_sub_left hbelow _
      _ ≤ |(n : ℚ) * 2 ^ s - y * 2 ^ t| := by
          rw [abs_sub_comm]
          exact le_abs_self _

theorem cast_apply (sign : Sign) (m : Nat) : ((sign.apply m : Int) : ℚ) = sign.apply 1 * m := by
  cases sign <;> simp [Sign.apply]

theorem OnScale.apply {f : ℚ} (sign : Sign) (h : OnScale f) : OnScale (sign.apply 1 * f) := by
  cases sign with
  | negative => simpa [Sign.apply] using h.neg
  | positive => simpa [Sign.apply] using h

theorem apply_apply (sign : Sign) (q : ℚ) : (sign.apply 1 : ℚ) * (sign.apply 1 * q) = q := by
  cases sign <;> simp [Sign.apply]

theorem abs_apply_mul (sign : Sign) (q : ℚ) : |(sign.apply 1 : ℚ) * q| = |q| := by
  cases sign <;> simp [Sign.apply]

theorem roundWithAccuracy_nearest (sign : Sign) {m : Nat} {e : Int} {accuracy : Accuracy} {q : ℚ}
    (hloc : Locates (ofMantissaAndAccuracy m accuracy) q) (hfine : 52 ≤ m.log2 ∨ e ≤ -1074) :
    Nearest (roundWithAccuracy .binary64 sign m e accuracy) (sign.apply 1 * (q * 2 ^ e)) := by
  obtain ⟨t, ht⟩ : ∃ t, t = max (m.log2 + e - 52) (-1074) := ⟨_, rfl⟩
  obtain ⟨k, hk⟩ : ∃ k : Nat, e + k = t := ⟨(t - e).toNat, by omega⟩
  have hscaled := hloc.scaled hfine ht hk
  obtain ⟨y, hy⟩ : ∃ y, y = q / 2 ^ k := ⟨_, rfl⟩
  obtain ⟨r, hr⟩ : ∃ r, r = (ofMantissaAndAccuracy m accuracy >>> k).roundedMantissa := ⟨_, rfl⟩
  have hvalue : q * 2 ^ e = y * 2 ^ t := by
    rw [hy, ← hk, two_zpow_add, zpow_natCast]
    field_simp
  have hhalf : |((r : Int) : ℚ) - y| ≤ 1 / 2 := by
    rw [hr, hy]
    exact_mod_cast (hloc.shiftRight k).abs_roundedMantissa_sub_le
  rw [← hy] at hscaled
  obtain ⟨hlow, hhigh⟩ := abs_le.1 hhalf
  push_cast at hlow hhigh
  have hlt := hscaled.lt
  have hmost : r ≤ 2 ^ 53 := by
    have hcast : (r : ℚ) < 2 ^ 53 + 1 := by linarith
    exact Nat.lt_succ_iff.1 (by exact_mod_cast hcast)
  have hfull : 2 ^ 52 ≤ r ∨ t = -1074 := by
    refine hscaled.full.imp_left ?_
    intro hge
    have hcast : (2 ^ 52 : ℚ) < r + 1 := by linarith
    exact Nat.lt_succ_iff.1 (by exact_mod_cast hcast)
  -- Whichever of the two units the mantissa ends up with, it stands for the same number.
  have hround : Canonical (roundWithAccuracy .binary64 sign m e accuracy) ∧
      number (roundWithAccuracy .binary64 sign m e accuracy) = sign.apply 1 * (r * 2 ^ t) := by
    rw [roundWithAccuracy, shiftToTargetExponent_eq accuracy ht hk]
    dsimp only
    rw [← hr]
    rcases hmost.lt_or_eq with hless | heq
    · rw [shift_of_lt hless hscaled.least]
      dsimp only
      split
      · next h0 =>
        rw [h0]
        exact ⟨.zero sign, by simp [number]⟩
      · next h0 =>
        refine ⟨.finite sign _ hless hscaled.least hfull, ?_⟩
        rw [number, cast_apply, mul_assoc]
    · rw [heq, shift_full hscaled.least]
      dsimp only
      rw [dif_neg (by norm_num)]
      refine ⟨.finite sign _ (by norm_num) (by have := hscaled.least; omega) (.inl le_rfl), ?_⟩
      rw [number, cast_apply, mul_assoc, two_zpow_add]
      push_cast
      ring
  refine ⟨hround.1, ?_⟩
  intro f hf
  have hnear := hscaled.nearest hhalf (hf.apply sign)
  rw [hround.2, hvalue, ← mul_sub, abs_apply_mul]
  calc |(r : ℚ) * 2 ^ t - y * 2 ^ t| ≤ |sign.apply 1 * f - y * 2 ^ t| := by exact_mod_cast hnear
    _ = |sign.apply 1 * (f - sign.apply 1 * (y * 2 ^ t))| := by rw [mul_sub, apply_apply]
    _ = |f - sign.apply 1 * (y * 2 ^ t)| := abs_apply_mul ..

theorem log2_mul_two_pow {m : Nat} (hm : m ≠ 0) (k : Nat) : (m * 2 ^ k).log2 = m.log2 + k := by
  induction k with
  | zero => rw [pow_zero, Nat.mul_one, Nat.add_zero]
  | succ k ih =>
    rw [pow_succ', Nat.mul_left_comm, Nat.log2_two_mul (by positivity), ih, Nat.add_assoc]

theorem round_nearest (sign : Sign) {m : Nat} {e : Int} (hm : 0 < m) :
    Nearest (UnpackedFloat.round .binary64 sign m e) (sign.apply 1 * (m * 2 ^ e)) := by
  obtain ⟨t, ht⟩ : ∃ t, t = Format.binary64.targetExponent (totalExponent m e) := ⟨_, rfl⟩
  obtain ⟨k, hk⟩ : ∃ k : Nat, k = (e - t).toNat := ⟨_, rfl⟩
  have hvalue : (m : ℚ) * 2 ^ e = (m * 2 ^ k : Nat) * 2 ^ (e - k) := by
    rw [show e = e - k + k by omega, two_zpow_add, zpow_natCast, add_sub_cancel_right]
    push_cast
    ring
  have hfine : 52 ≤ (m * 2 ^ k).log2 ∨ e - k ≤ -1074 := by
    rw [targetExponent_eq, totalExponent] at ht
    rw [log2_mul_two_pow hm.ne' k]
    omega
  rw [UnpackedFloat.round, ← ht, decreaseExponent, ← hk, Nat.shiftLeft_eq, hvalue]
  exact roundWithAccuracy_nearest sign (locates_exact _) hfine

end HostTelemetry.Double
