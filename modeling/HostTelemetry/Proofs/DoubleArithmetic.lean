import HostTelemetry.Proofs.DecimalReading
import HostTelemetry.Proofs.NearestDouble

/-!
# Arithmetic of doubles

A sum, a difference, a product and a quotient of finite doubles is the exact one, rounded. As long as
the exact one stays far below the largest double, the result is finite and lies within the same
bound.
-/

namespace HostTelemetry.Double

open Float.Model Float.Model.UnpackedFloat
open HostTelemetry.Decimal (Binary)

/-! ### Operations on unpacked doubles -/

variable {u v : UnpackedFloat}

theorem cast_toNat {m : Int} (h : 0 ≤ m) : (m.toNat : ℚ) = m := by
  exact_mod_cast congrArg (Int.cast : Int → ℚ) (Int.toNat_of_nonneg h)

theorem normalize_nearest (m e : Int) :
    Nearest (UnpackedFloat.normalize .binary64 m e .positive) (m * 2 ^ e) := by
  unfold UnpackedFloat.normalize
  cases hc : compare m 0 with
  | lt =>
    have hneg := Int.compare_eq_lt.1 hc
    have h := round_nearest .negative (m := (-m).toNat) (e := e) (by omega)
    rw [cast_toNat (by omega)] at h
    simpa [Sign.apply] using h
  | eq =>
    rw [Int.compare_eq_eq.1 hc]
    simpa [number] using (Canonical.zero .positive).nearest_self
  | gt =>
    have hpos := Int.compare_eq_gt.1 hc
    have h := round_nearest .positive (m := m.toNat) (e := e) (by omega)
    rw [cast_toNat (by omega)] at h
    simpa [Sign.apply] using h

theorem apply_decreaseExponent (sign : Sign) (m : Nat) {e t : Int} (h : t ≤ e) :
    ((sign.apply (decreaseExponent m e t).1 : Int) : ℚ) * 2 ^ t = (sign.apply m : Int) * 2 ^ e := by
  rw [decreaseExponent, Nat.shiftLeft_eq, cast_apply, cast_apply, two_zpow_eq_mul h]
  push_cast
  ring

theorem add_nearest (hu : Canonical u) (hv : Canonical v) :
    Nearest (UnpackedFloat.add .binary64 u v) (number u + number v) := by
  cases hu with
  | zero s =>
    rw [show number (.zero s) = 0 from rfl, zero_add]
    cases hv with
    | zero s' =>
      show Nearest (if s == s' then .zero s else .zero .positive) _
      split <;> exact (Canonical.zero _).nearest_self
    | finite s' hm hlt he hfull => exact (Canonical.finite s' hm hlt he hfull).nearest_self
  | @finite s m e hm hlt he hfull =>
    cases hv with
    | zero s' =>
      rw [show number (.zero s') = 0 from rfl, add_zero]
      exact (Canonical.finite s hm hlt he hfull).nearest_self
    | @finite s' m' e' hm' hlt' he' hfull' =>
      have h := normalize_nearest (s.apply (decreaseExponent m e (min e e')).1 +
        s'.apply (decreaseExponent m' e' (min e e')).1) (min e e')
      rw [Int.cast_add, add_mul, apply_decreaseExponent s m (min_le_left e e'),
        apply_decreaseExponent s' m' (min_le_right e e')] at h
      exact h

theorem unpacked_add_comm (u v : UnpackedFloat) :
    UnpackedFloat.add .binary64 u v = UnpackedFloat.add .binary64 v u := by
  cases u <;> cases v <;> simp only [UnpackedFloat.add]
  case infinity.infinity s s' => cases s <;> cases s' <;> rfl
  case zero.zero s s' => cases s <;> cases s' <;> rfl
  case finite.finite => rw [add_comm, min_comm]

theorem sub_nearest (hu : Canonical u) (hv : Canonical v) :
    Nearest (UnpackedFloat.sub .binary64 u v) (number u - number v) := by
  cases hu with
  | zero s =>
    rw [show number (.zero s) = 0 from rfl, zero_sub]
    cases hv with
    | zero s' =>
      rw [show number (.zero s') = 0 from rfl, neg_zero]
      show Nearest (if s == -s' then .zero s else .zero .positive) _
      split <;> exact (Canonical.zero _).nearest_self
    | finite s' hm hlt he hfull =>
      rw [← number_neg]
      exact (Canonical.finite s' hm hlt he hfull).neg.nearest_self
  | @finite s m e hm hlt he hfull =>
    cases hv with
    | zero s' =>
      rw [show number (.zero s') = 0 from rfl, sub_zero]
      exact (Canonical.finite s hm hlt he hfull).nearest_self
    | @finite s' m' e' hm' hlt' he' hfull' =>
      have h := normalize_nearest (s.apply (decreaseExponent m e (min e e')).1 -
        s'.apply (decreaseExponent m' e' (min e e')).1) (min e e')
      rw [Int.cast_sub, sub_mul, apply_decreaseExponent s m (min_le_left e e'),
        apply_decreaseExponent s' m' (min_le_right e e')] at h
      exact h

theorem mul_apply (s s' : Sign) : (((s * s').apply 1 : Int) : ℚ) = s.apply 1 * s'.apply 1 := by
  have h : (s * s').apply 1 = s.apply 1 * s'.apply 1 := by cases s <;> cases s' <;> rfl
  rw [h, Int.cast_mul]

theorem div_apply (s s' : Sign) : (((s / s').apply 1 : Int) : ℚ) = s.apply 1 / s'.apply 1 := by
  have h : (s / s').apply 1 = s.apply 1 * s'.apply 1 := by cases s <;> cases s' <;> rfl
  rw [h, Int.cast_mul]
  cases s <;> cases s' <;> simp [Sign.apply]

theorem mul_nearest_finite (s s' : Sign) {m m' : Nat} (e e' : Int) (hm : 0 < m) (hm' : 0 < m')
    (hfine : 52 ≤ (m * m').log2 ∨ e + e' ≤ -1074) :
    Nearest (UnpackedFloat.mul .binary64 (.finite s m e hm) (.finite s' m' e' hm'))
      (number (.finite s m e hm) * number (.finite s' m' e' hm')) := by
  have h := roundWithAccuracy_nearest (s * s') (locates_exact (m * m')) hfine
  have hvalue : (((s * s').apply 1 : Int) : ℚ) * (((m * m' : Nat) : ℚ) * 2 ^ (e + e')) =
      number (.finite s m e hm) * number (.finite s' m' e' hm') := by
    rw [number, number, cast_apply s m, cast_apply s' m', mul_apply, two_zpow_add]
    push_cast
    ring
  rw [hvalue] at h
  exact h

theorem mul_nearest (hu : Canonical u) (hv : Canonical v) :
    Nearest (UnpackedFloat.mul .binary64 u v) (number u * number v) := by
  cases hu with
  | zero s =>
    rw [show number (.zero s) = 0 from rfl, zero_mul]
    cases hv <;> exact (Canonical.zero _).nearest_self
  | @finite s m e hm hlt he hfull =>
    cases hv with
    | zero s' =>
      rw [show number (.zero s') = 0 from rfl, mul_zero]
      exact (Canonical.zero _).nearest_self
    | @finite s' m' e' hm' hlt' he' hfull' =>
      refine mul_nearest_finite s s' e e' hm hm' ?_
      rcases hfull with hfull | hfull
      · exact .inl (le_log2_mul hfull hm')
      · rcases hfull' with hfull' | hfull'
        · rw [Nat.mul_comm]
          exact .inl (le_log2_mul hfull' hm)
        · omega

theorem div_nearest (hu : Canonical u) (hv : Canonical v) (h0 : number v ≠ 0) :
    Nearest (UnpackedFloat.div .binary64 u v) (number u / number v) := by
  cases hv with
  | zero s => exact absurd rfl h0
  | @finite s' n f hn hlt' hf hfull' =>
    cases hu with
    | zero s =>
      rw [show number (.zero s) = 0 from rfl, zero_div]
      exact (Canonical.zero _).nearest_self
    | @finite s m e hm hlt he hfull =>
      obtain ⟨k, t, hcore, hfine, hquotient⟩ := exists_divCore hm hn e f
      have h := roundWithAccuracy_nearest (s / s') (locates_ofFraction (m * 2 ^ k) hn) hfine
      have hvalue : (((s / s').apply 1 : Int) : ℚ) * (((m * 2 ^ k : Nat) : ℚ) / n * 2 ^ t) =
          number (.finite s m e hm) / number (.finite s' n f hn) := by
        rw [number, number, cast_apply s m, cast_apply s' n, div_apply, ← hquotient,
          div_mul_div_comm, mul_assoc, mul_assoc]
      rw [hvalue] at h
      rw [UnpackedFloat.div, hcore]
      exact h

/-! ### Doubles -/

variable {x y : Float} {p q : ℚ} {k : Int}

/-- The number that a double stands for, 0 if it is none. -/
def amount (x : Float) : ℚ := number x.toModel.unpack

theorem canonical_of_isFinite (h : x.isFinite = true) : Canonical x.toModel.unpack := by
  by_cases h0 : (Binary.ofDouble x).mantissa = 0
  · rw [eq_zero_of_mantissa h h0]
    split
    · exact .zero .negative
    · exact .zero .positive
  · have hb := regular_ofDouble h h0
    rw [unpack_of_isFinite h h0]
    exact .finite _ _ hb.lt hb.least hb.full

theorem onScale_amount (h : x.isFinite = true) : OnScale (amount x) :=
  (canonical_of_isFinite h).onScale

/-- The double that a number is rounded to, infinity if it is too large. -/
def Rounds (x : Float) (q : ℚ) : Prop := ∃ u, x = .ofModel (.pack u) ∧ Nearest u q

theorem rounds_add (hx : x.isFinite = true) (hy : y.isFinite = true) :
    Rounds (x + y) (amount x + amount y) :=
  ⟨_, rfl, add_nearest (canonical_of_isFinite hx) (canonical_of_isFinite hy)⟩

theorem float_add_comm (x y : Float) : x + y = y + x :=
  congrArg (fun u => Float.ofModel (.pack u)) (unpacked_add_comm x.toModel.unpack y.toModel.unpack)

theorem rounds_sub (hx : x.isFinite = true) (hy : y.isFinite = true) :
    Rounds (x - y) (amount x - amount y) :=
  ⟨_, rfl, sub_nearest (canonical_of_isFinite hx) (canonical_of_isFinite hy)⟩

theorem rounds_mul (hx : x.isFinite = true) (hy : y.isFinite = true) :
    Rounds (x * y) (amount x * amount y) :=
  ⟨_, rfl, mul_nearest (canonical_of_isFinite hx) (canonical_of_isFinite hy)⟩

theorem rounds_div (hx : x.isFinite = true) (hy : y.isFinite = true) (h0 : amount y ≠ 0) :
    Rounds (x / y) (amount x / amount y) :=
  ⟨_, rfl, div_nearest (canonical_of_isFinite hx) (canonical_of_isFinite hy) h0⟩

/-! ### Bounds -/

/-- A finite double of a limited size. -/
structure Within (x : Float) (k : Int) : Prop where
  finite : x.isFinite = true
  abs_le : |amount x| ≤ 2 ^ k

theorem Within.mono {j : Int} (h : Within x j) (hle : j ≤ k) : Within x k where
  finite := h.finite
  abs_le := h.abs_le.trans (zpow_le_zpow_right₀ one_le_two hle)

theorem Canonical.unpack_of_power {sign : Sign} {m : Nat} {e : Int} {hm : 0 < m}
    (h : Canonical (.finite sign m e hm)) (hmost : e ≤ 971) :
    (Float.Model.pack (.finite sign m e hm)).unpack = .finite sign m e hm := by
  cases h with
  | finite sign hm hlt he hfull =>
    have hb : Regular ⟨m, e, decide (m = 2 ^ 52 ∧ -1074 < e)⟩ :=
      ⟨hm, hlt, he, hmost, hfull, decide_eq_true_iff⟩
    exact unpack_pack sign hb

/-- Packing loses nothing of a number that is not too large. -/
theorem Canonical.unpack_pack (h : Canonical u) (hu : |number u| < 2 ^ (1024 : Int)) :
    (Float.Model.pack u).unpack = u := by
  cases id h with
  | zero sign => cases sign <;> rfl
  | @finite sign m e hm hlt he hfull =>
    refine h.unpack_of_power ?_
    by_contra hgt
    have hlarge : (2 : ℚ) ^ (52 : Int) ≤ m := by
      have := hfull.resolve_right (by omega)
      exact_mod_cast this
    rw [number, cast_apply, mul_assoc, abs_apply_mul, abs_of_nonneg (by positivity)] at hu
    have hover : (2 : ℚ) ^ (1024 : Int) ≤ m * 2 ^ e := by
      calc (2 : ℚ) ^ (1024 : Int) ≤ 2 ^ (52 + e) := zpow_le_zpow_right₀ one_le_two (by omega)
        _ = 2 ^ (52 : Int) * 2 ^ e := two_zpow_add ..
        _ ≤ m * 2 ^ e := mul_le_mul_of_nonneg_right hlarge (two_zpow_pos e).le
    exact absurd hover (not_le.2 hu)

theorem Canonical.isFinite (h : Canonical u) : u.isFinite = true := by
  cases h <;> rfl

/-- What becomes of a number that is not too large, a quarter of the last digit apart. -/
theorem Rounds.settle (h : Rounds x q) (hq : |q| ≤ 2 ^ k + 2 ^ (k - 54)) (hlow : -1074 ≤ k)
    (hhigh : k ≤ 1023) : Within x k ∧ Nearest x.toModel.unpack q := by
  obtain ⟨u, rfl, hu⟩ := h
  have hle := hu.abs_number_le_of_le_add hlow hq
  have hless : (2 : ℚ) ^ k < 2 ^ (1024 : Int) := zpow_lt_zpow_right₀ one_lt_two (by omega)
  have hunpack : (Float.Model.pack u).unpack = u := hu.canonical.unpack_pack (hle.trans_lt hless)
  have hamount : amount (.ofModel (.pack u)) = number u := congrArg number hunpack
  refine ⟨⟨?_, ?_⟩, ?_⟩
  · show (Float.Model.pack u).unpack.isFinite = true
    rw [hunpack]
    exact hu.canonical.isFinite
  · rwa [hamount]
  · show Nearest (Float.Model.pack u).unpack q
    rwa [hunpack]

theorem Rounds.within (h : Rounds x q) (hq : |q| ≤ 2 ^ k) (hlow : -1074 ≤ k) (hhigh : k ≤ 1023) :
    Within x k :=
  (h.settle (hq.trans (le_add_of_nonneg_right (two_zpow_pos _).le)) hlow hhigh).1

theorem two_zpow_add_self (k : Int) : (2 : ℚ) ^ k + 2 ^ k = 2 ^ (k + 1) := by
  rw [two_zpow_add, zpow_one]
  ring

theorem Within.mul {j : Int} (hx : Within x j) (hy : Within y k) (hlow : -1074 ≤ j + k)
    (hhigh : j + k ≤ 1023) : Within (x * y) (j + k) := by
  refine (rounds_mul hx.finite hy.finite).within ?_ hlow hhigh
  rw [abs_mul, two_zpow_add]
  exact mul_le_mul hx.abs_le hy.abs_le (abs_nonneg _) (two_zpow_pos j).le

/-- A sum does not pass a bound that one summand is far below. -/
theorem Within.add_small (hx : Within x k) (hy : Within y (k - 54)) (hlow : -1074 ≤ k)
    (hhigh : k ≤ 1023) : Within (x + y) k :=
  ((rounds_add hx.finite hy.finite).settle
    ((abs_add_le _ _).trans (add_le_add hx.abs_le hy.abs_le)) hlow hhigh).1

/-- A quotient is bounded by the unit of the divisor's grid. -/
theorem Within.div {g j : Int} (hx : Within x j) (hy : y.isFinite = true) (hpos : 0 < amount y)
    (hg : OnGrid g (amount y)) (hlow : -1074 ≤ j - g) (hhigh : j - g ≤ 1023) :
    Within (x / y) (j - g) := by
  refine (rounds_div hx.finite hy hpos.ne').within ?_ hlow hhigh
  rw [abs_div, abs_of_pos hpos, div_le_iff₀ hpos]
  calc |amount x| ≤ 2 ^ j := hx.abs_le
    _ = 2 ^ (j - g) * 2 ^ g := by rw [← two_zpow_add, sub_add_cancel]
    _ ≤ 2 ^ (j - g) * amount y :=
        mul_le_mul_of_nonneg_left (hg.le_of_pos hpos) (two_zpow_pos _).le

/-- A finite double of a limited size on a grid. -/
structure Spans (x : Float) (g k : Int) : Prop extends Within x k where
  onGrid : OnGrid g (amount x)

namespace Spans

variable {g : Int}

theorem mono {j : Int} (h : Spans x g j) (hle : j ≤ k) : Spans x g k where
  toWithin := h.toWithin.mono hle
  onGrid := h.onGrid

theorem of_rounds (h : Rounds x q) (hq : |q| ≤ 2 ^ k + 2 ^ (k - 54)) (hgrid : OnGrid g q)
    (hlow : -1074 ≤ g) (hle : g ≤ k) (hhigh : k ≤ 1023) : Spans x g k := by
  obtain ⟨hwithin, hnearest⟩ := h.settle hq (hlow.trans hle) hhigh
  exact ⟨hwithin, hnearest.onGrid hlow hgrid⟩

theorem add_small (hx : Spans x g k) (hy : Spans y g (k - 54)) (hlow : -1074 ≤ g) (hle : g ≤ k)
    (hhigh : k ≤ 1023) : Spans (x + y) g k :=
  of_rounds (rounds_add hx.finite hy.finite)
    ((abs_add_le _ _).trans (add_le_add hx.abs_le hy.abs_le)) (hx.onGrid.add hy.onGrid) hlow hle
    hhigh

theorem sub (hx : Spans x g k) (hy : Spans y g k) (hlow : -1074 ≤ g) (hle : g ≤ k)
    (hhigh : k ≤ 1022) : Spans (x - y) g (k + 1) := by
  refine of_rounds (rounds_sub hx.finite hy.finite) ?_ (hx.onGrid.sub hy.onGrid) hlow (by omega)
    (by omega)
  have hsum : |amount x - amount y| ≤ 2 ^ k + 2 ^ k :=
    (abs_sub _ _).trans (add_le_add hx.abs_le hy.abs_le)
  rw [two_zpow_add_self] at hsum
  exact hsum.trans (le_add_of_nonneg_right (two_zpow_pos _).le)

/-- A factor that is a power of two of whole numbers is exact. -/
theorem mul_two_pow {n : Nat} (hx : Spans x g k) (hy : y.isFinite = true) (h : amount y = 2 ^ n)
    (hlow : -1074 ≤ g) (hle : g ≤ k) (hhigh : k + n ≤ 1023) : Spans (x * y) g (k + n) := by
  refine of_rounds (rounds_mul hx.finite hy) ?_ ?_ hlow (by omega) hhigh
  · rw [h, abs_mul, abs_of_pos (by positivity : (0 : ℚ) < 2 ^ n), two_zpow_add, zpow_natCast]
    refine le_trans ?_ (le_add_of_nonneg_right (two_zpow_pos _).le)
    exact mul_le_mul_of_nonneg_right hx.abs_le (by positivity)
  · obtain ⟨m, hm⟩ := hx.onGrid
    refine ⟨m * 2 ^ n, ?_⟩
    rw [hm, h]
    push_cast
    ring

end Spans

/-- A finite double that is 0 or not too small lies on a grid. -/
theorem onGrid_of_le (h : x.isFinite = true) (hle : amount x = 0 ∨ 2 ^ k ≤ |amount x|) :
    OnGrid (k - 52) (amount x) := by
  rcases hle with h0 | hle
  · exact ⟨0, by rw [h0, Int.cast_zero, zero_mul]⟩
  · obtain ⟨n, t, hn, ht, heq⟩ := onScale_amount h
    rw [heq] at hle ⊢
    refine OnGrid.of_le ⟨n, rfl⟩ ?_
    by_contra hlt
    have hcast : |(n : ℚ)| < 2 ^ 53 := by exact_mod_cast hn
    have hless : |(n : ℚ) * 2 ^ t| < 2 ^ k := by
      rw [abs_mul, abs_of_pos (two_zpow_pos t)]
      calc |(n : ℚ)| * 2 ^ t < 2 ^ 53 * 2 ^ t := mul_lt_mul_of_pos_right hcast (two_zpow_pos t)
        _ = 2 ^ (t + 53) := by rw [two_zpow_add]; norm_num; ring
        _ ≤ 2 ^ k := zpow_le_zpow_right₀ one_le_two (by omega)
    exact absurd hle (not_le.2 hless)

/-! ### Whole numbers -/

theorem amount_eq (h : x.isFinite = true) : amount x =
    (signOf x).apply 1 * ((Binary.ofDouble x).mantissa * 2 ^ (Binary.ofDouble x).power) := by
  by_cases h0 : (Binary.ofDouble x).mantissa = 0
  · rw [h0, Nat.cast_zero, zero_mul, mul_zero, eq_zero_of_mantissa h h0]
    split <;> rfl
  · rw [amount, unpack_of_isFinite h h0, number, cast_apply, mul_assoc]

theorem abs_amount (h : x.isFinite = true) :
    |amount x| = (Binary.ofDouble x).mantissa * 2 ^ (Binary.ofDouble x).power := by
  rw [amount_eq h, abs_apply_mul, abs_of_nonneg (by positivity)]

theorem within_of_power (h : x.isFinite = true) (hk : (Binary.ofDouble x).power ≤ k - 53) :
    Within x k where
  finite := h
  abs_le := by
    have hm : ((Binary.ofDouble x).mantissa : ℚ) ≤ 2 ^ (53 : Int) := by
      by_cases h0 : (Binary.ofDouble x).mantissa = 0
      · rw [h0, Nat.cast_zero]
        exact (two_zpow_pos 53).le
      · exact_mod_cast (regular_ofDouble h h0).lt.le
    rw [abs_amount h]
    calc ((Binary.ofDouble x).mantissa : ℚ) * 2 ^ (Binary.ofDouble x).power
        ≤ 2 ^ (53 : Int) * 2 ^ (k - 53) := mul_le_mul hm
          (zpow_le_zpow_right₀ one_le_two hk) (two_zpow_pos _).le (two_zpow_pos 53).le
      _ = 2 ^ k := by rw [← two_zpow_add, add_sub_cancel]

theorem amount_one : amount 1.0 = 1 := by
  have h : Binary.ofDouble 1.0 = ⟨2 ^ 52, -52, true⟩ := by decide +kernel
  have hsign : (1.0 : Float).toBits.toNat / 2 ^ 63 ≠ 1 := by decide +kernel
  rw [amount_eq (by decide +kernel), h, signOf_eq, if_neg hsign]
  norm_num [Sign.apply]

theorem rounds_toFloat {n : Nat} (hn : n < 2 ^ 64) : Rounds n.toUInt64.toFloat n := by
  refine ⟨UnpackedFloat.ofUInt64 .binary64 n.toUInt64, rfl, ?_⟩
  have h := normalize_nearest (n : Int) 0
  rw [zpow_zero, mul_one, Int.cast_natCast] at h
  rw [UnpackedFloat.ofUInt64, UnpackedFloat.ofNat, UnpackedFloat.ofInt,
    UInt64.toNat_ofNat_of_lt' hn]
  exact h

theorem onScale_natCast {n : Nat} (hn : n < 2 ^ 53) : OnScale n := by
  refine ⟨n, 0, ?_, by norm_num, by simp⟩
  rw [abs_of_nonneg (Int.natCast_nonneg n)]
  exact_mod_cast hn

/-- A whole number that fits into a mantissa is a double. -/
theorem settle_natCast {n : Nat} (hn : n < 2 ^ 53) (h : Rounds x n) :
    x.isFinite = true ∧ amount x = n := by
  have hle : |(n : ℚ)| ≤ 2 ^ (53 : Int) := by
    rw [abs_of_nonneg (Nat.cast_nonneg n)]
    exact_mod_cast hn.le
  obtain ⟨hwithin, hnearest⟩ := h.settle
    (hle.trans (le_add_of_nonneg_right (two_zpow_pos _).le)) (by norm_num) (by norm_num)
  exact ⟨hwithin.finite, hnearest.eq_of_onScale (onScale_natCast hn)⟩

/-- A whole number is rounded once, however large it is. -/
theorem rounds_ofNat (n : Nat) : Rounds (Float.ofNat n) n := by
  show Rounds (Float.ofScientific n false 0) n
  unfold Float.ofScientific
  split
  · next h =>
    obtain ⟨hfinite, hamount⟩ := settle_natCast h.1 (rounds_toFloat (h.1.trans (by norm_num)))
    have hmul := rounds_mul hfinite (y := 1.0) (by decide +kernel)
    rw [hamount, amount_one, mul_one] at hmul
    exact hmul
  · next h =>
    have hlarge : 2 ^ 53 ≤ n := by omega
    refine ⟨UnpackedFloat.ofScientific .binary64 n 0, rfl, ?_⟩
    have hbits : (2 : Int) ^ Format.binary64.exponentBits = 2048 := by norm_num
    have hmantissa : Format.binary64.mantissaBits = 53 := rfl
    have hpos : 0 < n * 2 ^ 53 := Nat.mul_pos (by omega) (Nat.two_pow_pos _)
    have hone : 0 < 10 ^ (0 : Int).toNat := Nat.pow_pos (by norm_num)
    have hfine : 52 ≤ (n * 2 ^ 53 * 10 ^ (0 : Int).toNat).log2 := by
      refine le_log2_mul ?_ hone
      omega
    have hround := mul_nearest_finite .positive .positive (-(53 : Nat)) 0 hpos hone (.inl hfine)
    have hvalue : number (.finite .positive (n * 2 ^ 53) (-(53 : Nat)) hpos) = n := by
      rw [number, cast_apply, zpow_neg, zpow_natCast, Nat.cast_mul, Nat.cast_pow, Nat.cast_ofNat,
        mul_assoc, mul_assoc, mul_inv_cancel₀ (by positivity)]
      simp [Sign.apply]
    have hunit : number (.finite .positive (10 ^ (0 : Int).toNat) 0 hone) = 1 := by
      simp [number, Sign.apply]
    rw [hvalue, hunit, mul_one] at hround
    rw [UnpackedFloat.ofScientific, dif_neg (by omega), hbits, if_neg (by norm_num),
      if_neg (by omega), if_pos le_rfl]
    simp only [hmantissa, Nat.shiftLeft_eq]
    exact hround

/-! ### Infinity -/

/-- A double that is at least some number, or infinite. -/
def AtLeast (f : ℚ) (x : Float) : Prop :=
  x.toModel.unpack = .infinity .positive ∨ x.isFinite = true ∧ f ≤ amount x

/-- A double that is at least 1, or infinite. -/
def AtLeastOne (x : Float) : Prop :=
  x.toModel.unpack = .infinity .positive ∨ x.isFinite = true ∧ 1 ≤ amount x

theorem onScale_one : OnScale 1 := onScale_two_zpow (k := 0) (by norm_num)

theorem number_negative (m : Nat) (e : Int) (hm : 0 < m) : number (.finite .negative m e hm) < 0 := by
  have hpos : (0 : ℚ) < m * 2 ^ e := mul_pos (by exact_mod_cast hm) (two_zpow_pos e)
  rw [number, cast_apply, mul_assoc, Sign.apply]
  push_cast
  linarith

theorem unpack_pack_large {m : Nat} {e : Int} (hm : 0 < m) (he : 972 ≤ e) :
    (Float.Model.pack (.finite .positive m e hm)).unpack = .infinity .positive := by
  have hbias : (Format.binary64.exponentBias : Int) = 1023 := rfl
  have hpack : UnpackedFloat.pack .binary64 (.finite .positive m e hm) =
      packedInfinity .binary64 .positive := by
    unfold UnpackedFloat.pack
    dsimp only
    rw [hbias, if_pos (by norm_num; omega)]
  show UnpackedFloat.unpack .binary64 (UnpackedFloat.pack .binary64 _) = _
  rw [hpack]
  rfl

/-- A number that is not negative is packed as it is, or too large and becomes infinity. -/
theorem Canonical.unpack_pack_of_nonneg (h : Canonical u) (h0 : 0 ≤ number u) :
    (Float.Model.pack u).unpack = u ∨ (Float.Model.pack u).unpack = .infinity .positive := by
  cases id h with
  | zero sign => exact .inl (h.unpack_pack (by simp [number]))
  | @finite sign m e hm _ _ _ =>
    cases sign with
    | negative => exact absurd h0 (not_le.2 (number_negative m e hm))
    | positive =>
      by_cases he : e ≤ 971
      · exact .inl (h.unpack_of_power he)
      · exact .inr (unpack_pack_large hm (by omega))

theorem Rounds.atLeast {f : ℚ} (h : Rounds x q) (hf : OnScale f) (h0 : 0 ≤ f) (hq : f ≤ q) :
    AtLeast f x := by
  obtain ⟨u, rfl, hu⟩ := h
  have hge := hu.ge_of_ge hf hq
  rcases hu.canonical.unpack_pack_of_nonneg (h0.trans hge) with hsame | hover
  · refine .inr ⟨?_, ?_⟩
    · show (Float.Model.pack u).unpack.isFinite = true
      rw [hsame]
      exact hu.canonical.isFinite
    · show f ≤ number (Float.Model.pack u).unpack
      rwa [hsame]
  · exact .inl hover

theorem Rounds.atLeastOne (h : Rounds x q) (hq : 1 ≤ q) : AtLeastOne x :=
  h.atLeast onScale_one zero_le_one hq

theorem atLeastOne_ofNat {n : Nat} (h : 1 ≤ n) : AtLeastOne (Float.ofNat n) :=
  (rounds_ofNat n).atLeastOne (by exact_mod_cast h)

theorem Canonical.infinity_add (h : Canonical v) (sign : Sign) :
    UnpackedFloat.add .binary64 (.infinity sign) v = .infinity sign := by
  cases h <;> rfl

theorem Canonical.add_infinity (h : Canonical u) (sign : Sign) :
    UnpackedFloat.add .binary64 u (.infinity sign) = .infinity sign := by
  cases h <;> rfl

theorem Canonical.div_infinity (h : Canonical u) (sign : Sign) :
    Nearest (UnpackedFloat.div .binary64 u (.infinity sign)) 0 := by
  cases h <;> exact (Canonical.zero _).nearest_self

theorem rounds_div_infinity (hx : x.isFinite = true)
    (hy : y.toModel.unpack = .infinity .positive) : Rounds (x / y) 0 := by
  refine ⟨_, rfl, ?_⟩
  rw [hy]
  exact (canonical_of_isFinite hx).div_infinity .positive

theorem AtLeast.add {f : ℚ} (hf : OnScale f) (h0 : 0 ≤ f) (hx : AtLeast f x) (hy : AtLeast 0 y) :
    AtLeast f (x + y) := by
  rcases hx with hx | ⟨hx, hge⟩
  · left
    show (Float.Model.pack (UnpackedFloat.add .binary64 x.toModel.unpack y.toModel.unpack)).unpack = _
    rcases hy with hy | ⟨hy, -⟩
    · rw [hx, hy]
      rfl
    · rw [hx, (canonical_of_isFinite hy).infinity_add]
      rfl
  · rcases hy with hy | ⟨hy, hnonneg⟩
    · left
      show (Float.Model.pack (UnpackedFloat.add .binary64 x.toModel.unpack y.toModel.unpack)).unpack = _
      rw [hy, (canonical_of_isFinite hx).add_infinity]
      rfl
    · exact (rounds_add hx hy).atLeast hf h0 (by linarith)

theorem AtLeastOne.add (hx : AtLeastOne x) (hy : y.isFinite = true) (h0 : 0 ≤ amount y) :
    AtLeastOne (x + y) :=
  AtLeast.add onScale_one zero_le_one hx (.inr ⟨hy, h0⟩)

theorem Within.div_atLeastOne (hx : Within x k) (hy : AtLeastOne y) (hlow : -1074 ≤ k)
    (hhigh : k ≤ 1023) : Within (x / y) k := by
  rcases hy with hy | ⟨hy, hge⟩
  · refine (rounds_div_infinity hx.finite hy).within ?_ hlow hhigh
    rw [abs_zero]
    exact (two_zpow_pos k).le
  · have hpos : 0 < amount y := by linarith
    refine (rounds_div hx.finite hy hpos.ne').within ?_ hlow hhigh
    rw [abs_div, abs_of_pos hpos]
    exact (div_le_self (abs_nonneg _) hge).trans hx.abs_le

end HostTelemetry.Double
