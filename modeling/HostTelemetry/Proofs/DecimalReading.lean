import HostTelemetry.Decimal.Numeral
import HostTelemetry.Proofs.DoubleBits

/-!
# Reading decimals

A decimal is read through one product or one quotient of two numbers, and either is rounded once. So
what is read is the double that the decimal rounds to, whether its digits and its power of ten fit
into doubles or not.
-/

namespace HostTelemetry.Double

open Float.Model Float.Model.UnpackedFloat
open HostTelemetry.Decimal (Binary)

variable {b : Binary}

/-! ### Products and quotients -/

theorem mul_eq (hb : Regular b) {m n : Nat} {e f : Int} (hm : 0 < m) (hn : 0 < n)
    (hfine : 52 ≤ (m * n).log2 ∨ e + f ≤ -1074) (h : Captures b (m * 2 ^ e * (n * 2 ^ f))) :
    mul .binary64 (.finite .positive m e hm) (.finite .positive n f hn) =
      .finite .positive b.mantissa b.power hb.pos := by
  have hvalue : (m : ℚ) * 2 ^ e * (n * 2 ^ f) = (m * n : Nat) * 2 ^ (e + f) := by
    rw [two_zpow_add]
    push_cast
    ring
  rw [hvalue] at h
  exact roundWithAccuracy_eq .positive hb (locates_exact (m * n)) hfine h

theorem le_log2_div {m n k : Nat} (hm : 0 < m) (hn : 0 < n) (h : n.log2 + 53 ≤ m.log2 + k) :
    52 ≤ (m * 2 ^ k / n).log2 := by
  have hle : 2 ^ 52 * n ≤ m * 2 ^ k := by
    calc 2 ^ 52 * n ≤ 2 ^ 52 * 2 ^ (n.log2 + 1) :=
          Nat.mul_le_mul_left _ (Nat.le_of_lt Nat.lt_log2_self)
      _ = 2 ^ (n.log2 + 53) := by rw [← pow_add]; congr 1; omega
      _ ≤ 2 ^ (m.log2 + k) := Nat.pow_le_pow_right two_pos h
      _ = 2 ^ m.log2 * 2 ^ k := pow_add ..
      _ ≤ m * 2 ^ k := Nat.mul_le_mul_right _ (Nat.log2_self_le hm.ne')
  have hquotient : 2 ^ 52 ≤ m * 2 ^ k / n := (Nat.le_div_iff_mul_le hn).2 hle
  exact (Nat.le_log2 (by omega)).2 hquotient

/-- A quotient is taken far enough for a full mantissa, what is left of it being told by the rest. -/
theorem exists_divCore {m n : Nat} (hm : 0 < m) (hn : 0 < n) (e f : Int) : ∃ (k : Nat) (t : Int),
    divCore .binary64 m e n f = (m * 2 ^ k / n, t, accuracyOfFraction (m * 2 ^ k % n) n) ∧
      (52 ≤ (m * 2 ^ k / n).log2 ∨ t ≤ -1074) ∧
      (m : ℚ) * 2 ^ e / (n * 2 ^ f) = (m * 2 ^ k : Nat) / n * 2 ^ t := by
  obtain ⟨t, ht⟩ : ∃ t, t = min (e - f)
      (Format.binary64.targetExponent (totalExponent m e - totalExponent n f)) := ⟨_, rfl⟩
  obtain ⟨k, hk⟩ : ∃ k : Nat, e - f - t = k := ⟨(e - f - t).toNat, by omega⟩
  refine ⟨k, t, ?_, ?_, ?_⟩
  · rw [divCore, ← ht, hk, Int.toNat_natCast, Nat.shiftLeft_eq]
  · rw [targetExponent_eq, totalExponent, totalExponent] at ht
    by_cases hleast : t ≤ -1074
    · exact .inr hleast
    · exact .inl (le_log2_div hm hn (by omega))
  · rw [show e = t + k + f by omega, two_zpow_add, two_zpow_add, zpow_natCast]
    push_cast
    field_simp

theorem div_eq (hb : Regular b) {m n : Nat} {e f : Int} (hm : 0 < m) (hn : 0 < n)
    (h : Captures b (m * 2 ^ e / (n * 2 ^ f))) :
    div .binary64 (.finite .positive m e hm) (.finite .positive n f hn) =
      .finite .positive b.mantissa b.power hb.pos := by
  obtain ⟨k, t, hcore, hfine, hvalue⟩ := exists_divCore hm hn e f
  rw [hvalue] at h
  have hround := roundWithAccuracy_eq .positive hb (locates_ofFraction (m * 2 ^ k) hn) hfine h
  rw [← hround, UnpackedFloat.div, hcore]
  rfl

theorem ofScientific_eq (hb : Regular b) {m : Nat} {e : Int} (hm : 0 < m) (hmost : e ≤ 2048)
    (hleast : -(2048 + m.log2) ≤ e) (h : Captures b (m * 10 ^ e)) :
    UnpackedFloat.ofScientific .binary64 m e =
      .finite .positive b.mantissa b.power hb.pos := by
  have hbits : (2 : Int) ^ Format.binary64.exponentBits = 2048 := by norm_num
  rw [UnpackedFloat.ofScientific, dif_neg hm.ne', hbits, if_neg (by omega), if_neg (by omega)]
  split
  · next he =>
    obtain ⟨k, rfl⟩ := Int.eq_ofNat_of_zero_le he
    have hbits' : Format.binary64.mantissaBits = 53 := rfl
    refine mul_eq hb _ _ (.inl ?_) ?_
    · rw [hbits', Nat.shiftLeft_eq]
      refine (Nat.le_log2 (by positivity)).2 ?_
      calc 2 ^ 52 ≤ 1 * 2 ^ 53 * 1 := by norm_num
        _ ≤ m * 2 ^ 53 * 10 ^ (k : Int).toNat :=
          Nat.mul_le_mul (Nat.mul_le_mul_right _ hm) (Nat.pow_pos (by norm_num))
    · have hvalue : ((m <<< 53 : Nat) : ℚ) * 2 ^ (-(53 : Nat) : Int) *
          ((10 ^ k : Nat) * 2 ^ (0 : Int)) = m * 10 ^ (k : Int) := by
        rw [Nat.shiftLeft_eq, zpow_neg, zpow_natCast, zpow_natCast, zpow_zero]
        push_cast
        rw [mul_assoc (m : ℚ)]
        norm_num
      rw [hbits', Int.toNat_natCast, hvalue]
      exact h
  · next he =>
    have hvalue : (m : ℚ) * 2 ^ (0 : Int) / ((10 ^ (-e).toNat : Nat) * 2 ^ (0 : Int)) =
        m * 10 ^ e := by
      obtain ⟨k, rfl⟩ : ∃ k : Nat, e = -k := ⟨(-e).toNat, by omega⟩
      rw [neg_neg, Int.toNat_natCast, zpow_neg, zpow_natCast, ← div_eq_mul_inv]
      push_cast
      rw [mul_one, mul_one]
    refine div_eq hb _ _ ?_
    rw [hvalue]
    exact h

/-! ### Exact doubles -/

/-- A positive double with a full mantissa is exactly some number. -/
def Denotes (x : Float) (v : ℚ) : Prop :=
  ∃ (m : Nat) (e : Int) (hm : 0 < m), x.toModel.unpack = .finite .positive m e hm ∧
    2 ^ 52 ≤ m ∧ (m : ℚ) * 2 ^ e = v

theorem le_log2_mul {m n : Nat} (hm : 2 ^ 52 ≤ m) (hn : 0 < n) : 52 ≤ (m * n).log2 := by
  refine (Nat.le_log2 (by positivity)).2 ?_
  exact hm.trans (Nat.le_mul_of_pos_right m hn)

theorem Denotes.mul {x y : Float} {v w : ℚ} (hx : Denotes x v) (hy : Denotes y w) (hb : Regular b)
    (h : Captures b (v * w)) : x * y = assemble .positive hb := by
  obtain ⟨m, e, hm, hux, hfull, rfl⟩ := hx
  obtain ⟨n, f, hn, huy, -, rfl⟩ := hy
  have hproduct := mul_eq hb hm hn (.inl (le_log2_mul hfull hn)) h
  have hmul : x * y =
      .ofModel (.pack (UnpackedFloat.mul .binary64 x.toModel.unpack y.toModel.unpack)) := rfl
  rw [hmul, hux, huy, hproduct, assemble]

theorem Denotes.div {x y : Float} {v w : ℚ} (hx : Denotes x v) (hy : Denotes y w) (hb : Regular b)
    (h : Captures b (v / w)) : x / y = assemble .positive hb := by
  obtain ⟨m, e, hm, hux, -, rfl⟩ := hx
  obtain ⟨n, f, hn, huy, -, rfl⟩ := hy
  have hquotient := div_eq hb hm hn h
  have hdiv : x / y =
      .ofModel (.pack (UnpackedFloat.div .binary64 x.toModel.unpack y.toModel.unpack)) := rfl
  rw [hdiv, hux, huy, hquotient, assemble]

/-- A whole number in a full mantissa. -/
def ofWhole (n k : Nat) : Binary := ⟨n * 2 ^ k, -k, n * 2 ^ k == 2 ^ 52⟩

section Whole

variable {n k : Nat} (hpos : 0 < n) (hk : n.log2 + k = 52)

include hpos hk

theorem full_ofWhole : 2 ^ 52 ≤ (ofWhole n k).mantissa := by
  rw [← hk, pow_add]
  exact Nat.mul_le_mul_right _ (Nat.log2_self_le hpos.ne')

theorem regular_ofWhole : Regular (ofWhole n k) := by
  have hfull := full_ofWhole hpos hk
  have hless : n * 2 ^ k < 2 ^ 53 := by
    rw [show 53 = n.log2 + 1 + k by omega, pow_add]
    exact Nat.mul_lt_mul_of_pos_right Nat.lt_log2_self (Nat.two_pow_pos k)
  rw [ofWhole] at hfull ⊢
  constructor <;> dsimp only at hfull ⊢ <;> try omega
  simp
  omega

theorem ofUInt64_eq (hlt : n < 2 ^ 53) : UnpackedFloat.ofUInt64 .binary64 n.toUInt64 =
    .finite .positive (ofWhole n k).mantissa (ofWhole n k).power (regular_ofWhole hpos hk).pos := by
  have hregular := regular_ofWhole hpos hk
  have hfine := (Nat.le_log2 hregular.pos.ne').2 (full_ofWhole hpos hk)
  have hround := roundWithAccuracy_eq .positive hregular (locates_exact _) (.inl hfine)
    (captures_self hregular)
  have hcompare : compare (n : Int) 0 = .gt := Int.compare_eq_gt.2 (by omega)
  have htarget : Format.binary64.targetExponent (totalExponent n 0) = -k := by
    rw [targetExponent_eq, totalExponent]
    omega
  have hshift : decreaseExponent n 0 (-k) = ((ofWhole n k).mantissa, (ofWhole n k).power) := by
    rw [decreaseExponent, Nat.shiftLeft_eq, ofWhole]
    simp
  have htoNat : n.toUInt64.toNat = n := by
    refine UInt64.toNat_ofNat_of_lt' ?_
    rw [UInt64.size]
    omega
  rw [UnpackedFloat.ofUInt64, UnpackedFloat.ofNat, UnpackedFloat.ofInt, htoNat,
    UnpackedFloat.normalize, hcompare]
  dsimp only
  rw [UnpackedFloat.round, Int.toNat_natCast, htarget, hshift]
  exact hround

end Whole

/-- A whole number that fits into a mantissa is a double. -/
theorem denotes_toFloat {n : Nat} (hpos : 0 < n) (hlt : n < 2 ^ 53) :
    Denotes n.toUInt64.toFloat n := by
  have hlog : n.log2 < 53 := (Nat.log2_lt hpos.ne').2 hlt
  obtain ⟨k, hk⟩ : ∃ k, n.log2 + k = 52 := ⟨52 - n.log2, by omega⟩
  have hfloat : n.toUInt64.toFloat.toModel =
      .pack (UnpackedFloat.ofUInt64 .binary64 n.toUInt64) := rfl
  refine ⟨(ofWhole n k).mantissa, (ofWhole n k).power, (regular_ofWhole hpos hk).pos, ?_,
    full_ofWhole hpos hk, ?_⟩
  · rw [hfloat, ofUInt64_eq hpos hk hlt]
    exact unpack_pack .positive (regular_ofWhole hpos hk)
  · rw [ofWhole]
    push_cast
    rw [mul_assoc, ← zpow_natCast, ← two_zpow_add]
    simp

theorem power_table : ∀ k < 23, ∀ x ∈ Float.exactlyRepresentablePowersOfTen[k]?,
    x.isFinite = true ∧ x.toBits.toNat / 2 ^ 63 = 0 ∧ 2 ^ 52 ≤ (Binary.ofDouble x).mantissa ∧
      (Binary.ofDouble x).mantissa * 2 ^ (Binary.ofDouble x).power.toNat =
        10 ^ k * 2 ^ (-(Binary.ofDouble x).power).toNat := by
  decide +kernel

/-- A power with a whole exponent, in whole numbers. -/
theorem zpow_eq_div {x : ℚ} (hx : x ≠ 0) (e : Int) : x ^ e = x ^ e.toNat / x ^ (-e).toNat := by
  rw [← zpow_natCast, ← zpow_natCast, ← zpow_sub₀ hx]
  congr 1
  omega

theorem denotes_power {k : Nat} (hk : k < 23) {x : Float}
    (hx : Float.exactlyRepresentablePowersOfTen[k]? = some x) : Denotes x (10 ^ k) := by
  obtain ⟨hfinite, hsign, hfull, hvalue⟩ := power_table k hk x hx
  have hne : (Binary.ofDouble x).mantissa ≠ 0 := by omega
  refine ⟨(Binary.ofDouble x).mantissa, (Binary.ofDouble x).power, Nat.pos_of_ne_zero hne, ?_,
    hfull, ?_⟩
  · rw [unpack_of_isFinite hfinite hne, signOf_eq, hsign]
    rfl
  · rw [zpow_eq_div two_ne_zero, ← mul_div_assoc, div_eq_iff (by positivity)]
    exact_mod_cast hvalue

/-- A decimal is read as the double that it rounds to. -/
theorem ofScientific_float (hb : Regular b) {m : Nat} {e : Int} (hm : 0 < m) (hmost : e ≤ 2048)
    (hleast : -(2048 + m.log2) ≤ e) (h : Captures b (m * 10 ^ e)) :
    Float.ofScientific m (decide (e < 0)) e.natAbs = assemble .positive hb := by
  rw [Float.ofScientific]
  split
  · next hfast =>
    have hsize : e.natAbs < Float.exactlyRepresentablePowersOfTen.size :=
      Nat.lt_succ_of_le hfast.2
    have hpower := denotes_power (by omega) (Array.getElem?_eq_getElem hsize)
    have hwhole := denotes_toFloat hm hfast.1
    by_cases hneg : e < 0
    · rw [if_pos (decide_eq_true hneg)]
      refine hwhole.div hpower hb ?_
      rwa [div_eq_mul_inv, ← zpow_natCast, ← zpow_neg, show -(e.natAbs : Int) = e by omega]
    · rw [if_neg (by simpa using hneg)]
      refine hwhole.mul hpower hb ?_
      rwa [← zpow_natCast, show (e.natAbs : Int) = e by omega]
  · next hslow =>
    have he : (if decide (e < 0) = true then Int.negOfNat e.natAbs else Int.ofNat e.natAbs) =
        e := by
      by_cases hneg : e < 0
      · rw [if_pos (decide_eq_true hneg), Int.negOfNat_eq]
        show -(e.natAbs : Int) = e
        omega
      · rw [if_neg (by simpa using hneg)]
        exact Int.natAbs_of_nonneg (by omega)
    dsimp only
    rw [he, Float.Model.ofScientific, ofScientific_eq hb hm hmost hleast h, assemble]

/-! ### Numerals -/

/-- The number that a numeral stands for. -/
def value (n : Decimal.Numeral) : ℚ := n.significand * 10 ^ n.exponent

theorem length_natDigits {n : Nat} (hpos : 0 < n) :
    10 ^ ((Decimal.natDigits n).length - 1) ≤ n ∧ n < 10 ^ (Decimal.natDigits n).length := by
  have hlength : 0 < (Decimal.natDigits n).length := Nat.length_toDigits_pos
  have hle : ∀ k, 0 < k → ((Decimal.natDigits n).length ≤ k ↔ n < 10 ^ k) :=
    fun k hk => Nat.length_toDigits_le_iff (by norm_num) hk
  refine ⟨?_, (hle _ hlength).1 le_rfl⟩
  by_contra hlt
  rcases Nat.eq_zero_or_pos ((Decimal.natDigits n).length - 1) with h0 | h0
  · rw [h0] at hlt
    omega
  · have := (hle _ h0).2 (by omega)
    omega

/-- Twenty-eight decimal places are more than ninety-three binary ones. -/
theorem two_pow_le_ten_pow {k n : Nat} (h : 28 * k ≤ 93 * n) : 2 ^ k ≤ 10 ^ n := by
  refine (Nat.pow_le_pow_iff_left (n := 93) (by norm_num)).1 ?_
  calc (2 ^ k) ^ 93 = (2 ^ 93) ^ k := by rw [← pow_mul, ← pow_mul, Nat.mul_comm]
    _ ≤ (10 ^ 28) ^ k := Nat.pow_le_pow_left (by norm_num) k
    _ = 10 ^ (28 * k) := (pow_mul ..).symm
    _ ≤ 10 ^ (93 * n) := Nat.pow_le_pow_right (by norm_num) h
    _ = (10 ^ n) ^ 93 := by rw [← pow_mul, Nat.mul_comm]

theorem ten_pow_le_two_pow {k n : Nat} (h : 10 * n ≤ 3 * k) : 10 ^ n ≤ 2 ^ k := by
  refine (Nat.pow_le_pow_iff_left (n := 3) (by norm_num)).1 ?_
  calc (10 ^ n) ^ 3 = (10 ^ 3) ^ n := by rw [← pow_mul, ← pow_mul, Nat.mul_comm]
    _ ≤ (2 ^ 10) ^ n := Nat.pow_le_pow_left (by norm_num) n
    _ = 2 ^ (10 * n) := (pow_mul ..).symm
    _ ≤ 2 ^ (3 * k) := Nat.pow_le_pow_right (by norm_num) h
    _ = (2 ^ k) ^ 3 := by rw [← pow_mul, Nat.mul_comm]

/-- Between which powers of ten the numbers lie that round to doubles. -/
theorem Captures.size (hb : Regular b) {v : ℚ} (h : Captures b v) :
    (10 : ℚ) ^ (-324 : Int) ≤ v ∧ v ≤ 10 ^ (309 : Int) := by
  have hlow : (1 : ℚ) ≤ b.interval.low := by exact_mod_cast one_le_low hb.pos
  have hhigh : (b.interval.high : ℚ) ≤ 2 ^ (55 : Int) := by
    have hlt : (b.mantissa : ℚ) + 1 ≤ 2 ^ 53 := by exact_mod_cast hb.lt
    rw [high_eq]
    norm_num at hlt ⊢
    linarith
  constructor
  · calc (10 : ℚ) ^ (-324 : Int) ≤ 2 ^ (-1076 : Int) := by
          rw [zpow_neg, zpow_neg]
          refine inv_anti₀ (by positivity) ?_
          exact_mod_cast two_pow_le_ten_pow (k := 1076) (n := 324) (by norm_num)
      _ ≤ 1 * 2 ^ (b.power - 2) := by
          rw [one_mul]
          exact zpow_le_zpow_right₀ one_le_two (by have := hb.least; omega)
      _ ≤ b.interval.low * 2 ^ (b.power - 2) :=
          mul_le_mul_of_nonneg_right hlow (two_zpow_pos _).le
      _ ≤ v := h.low
  · calc v ≤ b.interval.high * 2 ^ (b.power - 2) := h.high
      _ ≤ 2 ^ (55 : Int) * 2 ^ (b.power - 2) :=
          mul_le_mul_of_nonneg_right hhigh (two_zpow_pos _).le
      _ = 2 ^ (55 + (b.power - 2)) := (two_zpow_add ..).symm
      _ ≤ 2 ^ (1024 : Int) := zpow_le_zpow_right₀ one_le_two (by have := hb.most; omega)
      _ ≤ 10 ^ (309 : Int) := by
          exact_mod_cast two_pow_le_ten_pow (k := 1024) (n := 309) (by norm_num)

theorem Captures.significand_pos (hb : Regular b) {n : Decimal.Numeral}
    (h : Captures b (value n)) : 0 < n.significand := by
  refine Nat.pos_of_ne_zero ?_
  intro h0
  have hge := (h.size hb).1
  have hpos : (0 : ℚ) < 10 ^ (-324 : Int) := by positivity
  rw [value, h0, Nat.cast_zero, zero_mul] at hge
  linarith

/-- A numeral is read as the double that it rounds to. -/
theorem toDouble_eq (hb : Regular b) {n : Decimal.Numeral} (h : Captures b (value n)) :
    n.toDouble = assemble .positive hb := by
  obtain ⟨hge, hle⟩ := h.size hb
  have hm := h.significand_pos hb
  obtain ⟨m, e⟩ := n
  obtain ⟨hdigits, hdigits'⟩ := length_natDigits hm
  obtain ⟨length, hlength⟩ : ∃ l, l = (Decimal.natDigits m).length := ⟨_, rfl⟩
  have hpos : 0 < length := hlength ▸ Nat.length_toDigits_pos
  rw [← hlength] at hdigits hdigits'
  have hunit : (0 : ℚ) < 10 ^ e := by positivity
  have hlow : -324 < (length : Int) + e := by
    refine (zpow_lt_zpow_iff_right₀ (by norm_num : (1 : ℚ) < 10)).1 (hge.trans_lt ?_)
    rw [zpow_add₀ (by norm_num), zpow_natCast]
    exact mul_lt_mul_of_pos_right (by exact_mod_cast hdigits') hunit
  have hhigh : ((length - 1 : Nat) : Int) + e ≤ 309 := by
    refine (zpow_le_zpow_iff_right₀ (by norm_num : (1 : ℚ) < 10)).1 (le_trans ?_ hle)
    rw [zpow_add₀ (by norm_num), zpow_natCast]
    exact mul_le_mul_of_nonneg_right (by exact_mod_cast hdigits) hunit.le
  have hlog : length - 1 ≤ m.log2 :=
    (Nat.le_log2 hm.ne').2 ((Nat.pow_le_pow_left (by norm_num) _).trans hdigits)
  unfold Decimal.Numeral.toDouble
  dsimp only
  rw [← hlength, Decimal.powerBound, if_neg hm.ne', if_neg (by omega), if_neg (by omega)]
  exact ofScientific_float hb hm (by omega) (by omega) h

end HostTelemetry.Double
