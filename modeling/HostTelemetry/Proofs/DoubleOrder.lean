import HostTelemetry.Proofs.DoubleArithmetic

/-!
# Order of doubles

Finite doubles compare like the numbers they stand for. A double that compares as at least 0 is a
finite one that is not negative, or infinity; sums of such doubles, and products and quotients of one
by a positive double, compare as at least 0 as well, so that none of them is a NaN.
-/

namespace HostTelemetry.Double

open Float.Model Float.Model.UnpackedFloat
open HostTelemetry.Decimal (Binary)

variable {u v : UnpackedFloat} {x y : Float} {m n : Nat} {e f : Int}

/-! ### Comparison of unpacked doubles -/

theorem number_positive (m : Nat) (e : Int) (hm : 0 < m) :
    number (.finite .positive m e hm) = m * 2 ^ e := by
  rw [number, Sign.apply, Int.cast_natCast]

theorem number_finite_negative (m : Nat) (e : Int) (hm : 0 < m) :
    number (.finite .negative m e hm) = -(m * 2 ^ e) := by
  rw [number, Sign.apply, Int.cast_neg, Int.cast_natCast, neg_mul]

theorem number_positive_pos (m : Nat) (e : Int) (hm : 0 < m) :
    0 < number (.finite .positive m e hm) := by
  rw [number_positive]
  exact mul_pos (by exact_mod_cast hm) (two_zpow_pos e)

/-- A full mantissa of a larger unit is above every mantissa of a smaller one. -/
theorem scaled_lt (hm : m < 2 ^ 53) (hn : 2 ^ 52 ≤ n) (h : e < f) : (m : ℚ) * 2 ^ e < n * 2 ^ f := by
  have hmost : (m : ℚ) < 2 ^ 53 := by exact_mod_cast hm
  have hfull : (2 : ℚ) ^ 52 ≤ n := by exact_mod_cast hn
  calc (m : ℚ) * 2 ^ e < 2 ^ 53 * 2 ^ e := mul_lt_mul_of_pos_right hmost (two_zpow_pos e)
    _ = 2 ^ 52 * 2 ^ (e + 1) := by rw [two_zpow_add]; norm_num; ring
    _ ≤ 2 ^ 52 * 2 ^ f :=
        mul_le_mul_of_nonneg_left (zpow_le_zpow_right₀ one_le_two (by omega)) (by norm_num)
    _ ≤ n * 2 ^ f := mul_le_mul_of_nonneg_right hfull (two_zpow_pos f).le

/-- Of two positive doubles the larger unit decides, and the mantissa where the units agree. -/
theorem compare_scaled (hm : m < 2 ^ 53) (hn : n < 2 ^ 53) (he : -1074 ≤ e) (hf : -1074 ≤ f)
    (hfull : 2 ^ 52 ≤ m ∨ e = -1074) (hfull' : 2 ^ 52 ≤ n ∨ f = -1074) :
    (compare e f).then (compare m n) = compare ((m : ℚ) * 2 ^ e) (n * 2 ^ f) := by
  rcases lt_trichotomy e f with h | rfl | h
  · have hless := scaled_lt hm (hfull'.resolve_right (by omega)) h
    rw [compare_lt_iff_lt.2 h, compare_lt_iff_lt.2 hless]
    rfl
  · have hunit := two_zpow_pos e
    rw [compare_eq_iff_eq.2 rfl]
    show compare m n = _
    rcases lt_trichotomy m n with h | rfl | h
    · rw [compare_lt_iff_lt.2 h,
        compare_lt_iff_lt.2 (mul_lt_mul_of_pos_right (by exact_mod_cast h) hunit)]
    · rw [compare_eq_iff_eq.2 rfl, compare_eq_iff_eq.2 rfl]
    · rw [compare_gt_iff_gt.2 h,
        compare_gt_iff_gt.2 (mul_lt_mul_of_pos_right (by exact_mod_cast h) hunit)]
  · have hless := scaled_lt hn (hfull.resolve_right (by omega)) h
    rw [compare_gt_iff_gt.2 h, compare_gt_iff_gt.2 hless]
    rfl

theorem compare_neg (p q : ℚ) : compare (-p) (-q) = (compare p q).swap := by
  rcases lt_trichotomy p q with h | rfl | h
  · rw [compare_lt_iff_lt.2 h, compare_gt_iff_gt.2 (neg_lt_neg h)]
    rfl
  · rw [compare_eq_iff_eq.2 rfl, compare_eq_iff_eq.2 rfl]
    rfl
  · rw [compare_gt_iff_gt.2 h, compare_lt_iff_lt.2 (neg_lt_neg h)]
    rfl

theorem Canonical.compare_eq (hu : Canonical u) (hv : Canonical v) :
    u.compare v = some (compare (number u) (number v)) := by
  cases hu with
  | zero s =>
    rw [show number (.zero s) = 0 from rfl]
    cases hv with
    | zero s' => rfl
    | @finite s' n f hn _ _ _ =>
      cases s' with
      | negative =>
        rw [compare_gt_iff_gt.2 (number_negative n f hn)]
        rfl
      | positive =>
        rw [compare_lt_iff_lt.2 (number_positive_pos n f hn)]
        rfl
  | @finite s m e hm hlt he hfull =>
    cases hv with
    | zero s' =>
      rw [show number (.zero s') = 0 from rfl]
      cases s with
      | negative =>
        rw [compare_lt_iff_lt.2 (number_negative m e hm)]
        rfl
      | positive =>
        rw [compare_gt_iff_gt.2 (number_positive_pos m e hm)]
        rfl
    | @finite s' n f hn hlt' hf hfull' =>
      have hscaled := compare_scaled hlt hlt' he hf hfull hfull'
      cases s with
      | negative =>
        cases s' with
        | negative =>
          rw [number_finite_negative, number_finite_negative, compare_neg, ← hscaled]
          rfl
        | positive =>
          have h := (number_negative m e hm).trans (number_positive_pos n f hn)
          rw [compare_lt_iff_lt.2 h]
          rfl
      | positive =>
        cases s' with
        | negative =>
          have h := (number_negative n f hn).trans (number_positive_pos m e hm)
          rw [compare_gt_iff_gt.2 h]
          rfl
        | positive =>
          rw [number_positive, number_positive, ← hscaled]
          rfl

/-! ### Comparison of doubles -/

theorem le_iff_amount (hx : x.isFinite = true) (hy : y.isFinite = true) :
    x ≤ y ↔ amount x ≤ amount y := by
  have hcompare := (canonical_of_isFinite hx).compare_eq (canonical_of_isFinite hy)
  have hle : x ≤ y ↔ x.toModel.unpack.le y.toModel.unpack = true := decide_eq_true_iff
  rw [hle, UnpackedFloat.le, hcompare, ← compare_le_iff_le]
  show Ordering.isLE _ = true ↔ _
  rw [Ordering.isLE_iff_ne_gt]
  rfl

theorem lt_iff_amount (hx : x.isFinite = true) (hy : y.isFinite = true) :
    x < y ↔ amount x < amount y := by
  have hcompare := (canonical_of_isFinite hx).compare_eq (canonical_of_isFinite hy)
  have hlt : x < y ↔ x.toModel.unpack.lt y.toModel.unpack = true := decide_eq_true_iff
  rw [hlt, UnpackedFloat.lt, hcompare, beq_iff_eq, Option.some.injEq, compare_lt_iff_lt]
  rfl

/-- What is at least 0 is a number that is not negative, or infinity. -/
theorem zero_le_iff : 0.0 ≤ x ↔ AtLeast 0 x := by
  constructor
  · intro h
    by_cases hx : x.isFinite = true
    · exact .inr ⟨hx, (le_iff_amount (by decide +kernel) hx).1 h⟩
    · left
      have hle : (UnpackedFloat.zero .positive).le x.toModel.unpack = true := of_decide_eq_true h
      replace hx : ¬x.toModel.unpack.isFinite = true := hx
      revert hle hx
      generalize x.toModel.unpack = u
      intro hle hx
      cases u with
      | infinity sign =>
        cases sign with
        | negative => cases hle
        | positive => rfl
      | notANumber => cases hle
      | zero sign => exact absurd rfl hx
      | finite sign m e hm => exact absurd rfl hx
  · rintro (hx | ⟨hx, h0⟩)
    · have hle : (UnpackedFloat.zero .positive).le x.toModel.unpack = true := by
        rw [hx]
        rfl
      exact decide_eq_true hle
    · exact (le_iff_amount (by decide +kernel) hx).2 h0

theorem zero_nonneg : (0.0 : Float).isFinite = true ∧ 0 ≤ amount 0.0 := ⟨by decide +kernel, le_rfl⟩

theorem AtLeast.mono {p q : ℚ} (h : AtLeast q x) (hle : p ≤ q) : AtLeast p x :=
  h.imp_right fun hfinite => ⟨hfinite.1, hle.trans hfinite.2⟩

theorem AtLeast.isNaN {q : ℚ} (h : AtLeast q x) : x.isNaN = false := by
  show x.toModel.unpack.isNaN = false
  rcases h with h | ⟨h, -⟩
  · rw [h]
    rfl
  · have hc := canonical_of_isFinite h
    cases hu : x.toModel.unpack with
    | notANumber =>
      rw [hu] at hc
      cases hc
    | infinity sign => rfl
    | zero sign => rfl
    | finite sign m e hm => rfl

/-- What is at least some number is not below a smaller one. -/
theorem AtLeast.exceeds {q : ℚ} (h : AtLeast q x) (hy : y.isFinite = true) (hq : amount y < q) :
    ¬x ≤ y := by
  rcases h with hx | ⟨hx, hge⟩
  · intro hle
    have hmodel : x.toModel.unpack.le y.toModel.unpack = true := of_decide_eq_true hle
    have hc := canonical_of_isFinite hy
    rw [hx] at hmodel
    cases hu : y.toModel.unpack with
    | infinity sign =>
      rw [hu] at hc
      cases hc
    | notANumber =>
      rw [hu] at hc
      cases hc
    | zero sign =>
      rw [hu] at hmodel
      cases hmodel
    | finite sign m e hm =>
      rw [hu] at hmodel
      cases hmodel
  · rw [le_iff_amount hx hy, not_le]
    exact hq.trans_le hge

theorem le_of_lt (h : x < y) : x ≤ y := by
  have hlt : x.toModel.unpack.lt y.toModel.unpack = true := of_decide_eq_true h
  have hle : x.toModel.unpack.le y.toModel.unpack = true := by
    rw [UnpackedFloat.le, eq_of_beq hlt]
    rfl
  exact decide_eq_true hle

theorem zero_lt_iff (hx : x.isFinite = true) : 0.0 < x ↔ 0 < amount x :=
  lt_iff_amount (by decide +kernel) hx

theorem pos_cases (h : 0.0 < x) :
    x.toModel.unpack = .infinity .positive ∨ x.isFinite = true ∧ 0 < amount x := by
  rcases zero_le_iff.1 (le_of_lt h) with hx | ⟨hx, -⟩
  · exact .inl hx
  · exact .inr ⟨hx, (zero_lt_iff hx).1 h⟩

/-! ### Operations on what is not negative -/

theorem abs_amount_lt (h : x.isFinite = true) : |amount x| < 2 ^ (1024 : Int) := by
  by_cases h0 : (Binary.ofDouble x).mantissa = 0
  · rw [abs_amount h, h0, Nat.cast_zero, zero_mul]
    exact two_zpow_pos 1024
  · have hb := regular_ofDouble h h0
    have hlt : ((Binary.ofDouble x).mantissa : ℚ) < 2 ^ 53 := by exact_mod_cast hb.lt
    rw [abs_amount h]
    calc ((Binary.ofDouble x).mantissa : ℚ) * 2 ^ (Binary.ofDouble x).power
        < 2 ^ 53 * 2 ^ (Binary.ofDouble x).power := mul_lt_mul_of_pos_right hlt (two_zpow_pos _)
      _ ≤ 2 ^ 53 * 2 ^ (971 : Int) :=
          mul_le_mul_of_nonneg_left (zpow_le_zpow_right₀ one_le_two hb.most) (by norm_num)
      _ = 2 ^ (1024 : Int) := by rw [show (1024 : Int) = 53 + 971 by norm_num, two_zpow_add]; norm_num

/-- What lies between 0 and a finite double is rounded to a double between them. -/
theorem Rounds.between {q : ℚ} (h : Rounds x q) (hy : y.isFinite = true) (h0 : 0 ≤ q)
    (hq : q ≤ amount y) : x.isFinite = true ∧ 0 ≤ amount x ∧ amount x ≤ amount y := by
  obtain ⟨u, rfl, hu⟩ := h
  have hge := hu.ge_of_ge onScale_zero h0
  have hle := hu.le_of_le (onScale_amount hy) hq
  have hsmall : |number u| < 2 ^ (1024 : Int) := by
    rw [abs_of_nonneg hge]
    exact (hle.trans (le_abs_self _)).trans_lt (abs_amount_lt hy)
  have hunpack : (Float.Model.pack u).unpack = u := hu.canonical.unpack_pack hsmall
  have hamount : amount (.ofModel (.pack u)) = number u := congrArg number hunpack
  refine ⟨?_, by rwa [hamount], by rwa [hamount]⟩
  show (Float.Model.pack u).unpack.isFinite = true
  rw [hunpack]
  exact hu.canonical.isFinite

theorem sub_between (hx : x.isFinite = true) (hy : y.isFinite = true) (h0 : 0 ≤ amount y)
    (hle : amount y ≤ amount x) : (x - y).isFinite = true ∧ 0 ≤ amount (x - y) := by
  obtain ⟨hfinite, hge, -⟩ := (rounds_sub hx hy).between hx (by linarith) (by linarith)
  exact ⟨hfinite, hge⟩

theorem Canonical.infinity_mul (h : Canonical v) (h0 : 0 < number v) :
    UnpackedFloat.mul .binary64 (.infinity .positive) v = .infinity .positive := by
  cases h with
  | zero sign => exact absurd h0 (lt_irrefl 0)
  | @finite sign m e hm _ _ _ =>
    cases sign with
    | negative => exact absurd h0 (not_lt.2 (number_negative m e hm).le)
    | positive => rfl

theorem AtLeast.mul {p f : ℚ} (hf : OnScale f) (h0 : 0 ≤ f) (hx : AtLeast p x)
    (hy : y.isFinite = true) (hpos : 0 < amount y) (hle : f ≤ p * amount y) : AtLeast f (x * y) := by
  rcases hx with hx | ⟨hx, hge⟩
  · left
    show (Float.Model.pack (UnpackedFloat.mul .binary64 x.toModel.unpack y.toModel.unpack)).unpack = _
    rw [hx, (canonical_of_isFinite hy).infinity_mul hpos]
    rfl
  · exact (rounds_mul hx hy).atLeast hf h0 (hle.trans (mul_le_mul_of_nonneg_right hge hpos.le))

theorem atLeast_div (hx : x.isFinite = true) (hge : 0 ≤ amount x) (h0 : 0.0 < y) :
    AtLeast 0 (x / y) := by
  rcases pos_cases h0 with hy | ⟨hy, hpos⟩
  · exact (rounds_div_infinity hx hy).atLeast onScale_zero le_rfl le_rfl
  · exact (rounds_div hx hy hpos.ne').atLeast onScale_zero le_rfl (div_nonneg hge hpos.le)

end HostTelemetry.Double
