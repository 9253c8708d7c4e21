import HostTelemetry.Counter.Value
import HostTelemetry.Proofs.DoubleOrder
import HostTelemetry.Proofs.NumberText

/-!
# Whole numbers in doubles

Every whole number of at most 53 binary digits is a double. Reading its decimal digits gives just
this double, and sums and differences that stay below that size are exact. A quotient of two such
numbers, in hundredths, is above 100 exactly where the quotient is above 1: one unit too many is
still seen behind both roundings.
-/

namespace HostTelemetry.Double

open HostTelemetry.Decimal (WritesNatural Numeral ofDigits natDigits readDouble?)

/-! ### Sums and differences -/

/-- A double that stands for a whole number. -/
structure Whole (x : Float) (n : Nat) : Prop where
  finite : x.isFinite = true
  amount_eq : amount x = n

namespace Whole

variable {x y : Float} {m n : Nat}

theorem of_rounds (h : Rounds x n) (hn : n < 2 ^ 53) : Whole x n where
  finite := (settle_natCast hn h).1
  amount_eq := (settle_natCast hn h).2

theorem ofNat (hn : n < 2 ^ 53) : Whole (Float.ofNat n) n := of_rounds (rounds_ofNat n) hn

theorem add (hx : Whole x m) (hy : Whole y n) (h : m + n < 2 ^ 53) : Whole (x + y) (m + n) := by
  refine of_rounds ?_ h
  have hsum := rounds_add hx.finite hy.finite
  rwa [hx.amount_eq, hy.amount_eq, ← Nat.cast_add] at hsum

theorem sub (hx : Whole x m) (hy : Whole y n) (hle : n ≤ m) (hm : m < 2 ^ 53) :
    Whole (x - y) (m - n) := by
  refine of_rounds ?_ (by omega)
  have hdifference := rounds_sub hx.finite hy.finite
  rwa [hx.amount_eq, hy.amount_eq, ← Nat.cast_sub hle] at hdifference

theorem zero : Whole 0.0 0 := ⟨by decide +kernel, rfl⟩

theorem lt_iff (hx : Whole x m) (hy : Whole y n) : x < y ↔ m < n := by
  rw [lt_iff_amount hx.finite hy.finite, hx.amount_eq, hy.amount_eq, Nat.cast_lt]

end Whole

/-- A sum of whole numbers is exact if it is not too large, starting from either zero. -/
theorem whole_sum {values : List Value} {ns : List Nat}
    (h : List.Forall₂ (fun v n => Whole v.number n) values ns) (hsum : ns.sum < 2 ^ 53) :
    Whole (Value.sum values).number ns.sum := by
  have hfold : ∀ (total : Value) (k : Nat), Whole total.number k → k + ns.sum < 2 ^ 53 →
      Whole (values.foldl (· + ·) total).number (k + ns.sum) := by
    clear hsum
    induction h with
    | nil =>
      intro total k hk _
      exact hk
    | @cons v n values ns hv _ ih =>
      intro total k hk hlt
      rw [List.sum_cons] at hlt ⊢
      rw [List.foldl_cons, ← Nat.add_assoc]
      refine ih (total + v) (k + n) ?_ (by omega)
      rw [Value.number_add]
      exact hk.add hv (by omega)
  have hzero : Whole (-0.0) 0 := ⟨by decide +kernel, rfl⟩
  have htotal := hfold ⟨-0.0, false⟩ 0 hzero (by omega)
  rwa [Nat.zero_add] at htotal

/-! ### Hundredths -/

theorem whole_hundred : Whole 100.0 100 := Whole.ofNat (n := 100) (by norm_num)

namespace Whole

variable {x y : Float} {m n : Nat}

theorem quotient_le_one (hx : Whole x m) (hy : Whole y n) (hpos : 0 < n) (hle : m ≤ n) :
    (x / y).isFinite = true ∧ 0 ≤ amount (x / y) ∧ amount (x / y) ≤ 1 := by
  have hn : (0 : ℚ) < n := by exact_mod_cast hpos
  have hone : (1.0 : Float).isFinite = true := by decide +kernel
  have hquotient := rounds_div hx.finite hy.finite (by rw [hy.amount_eq]; exact hn.ne')
  rw [hx.amount_eq, hy.amount_eq] at hquotient
  have hbetween := hquotient.between hone (by positivity) (by
    rw [amount_one, div_le_one hn]
    exact_mod_cast hle)
  rwa [amount_one] at hbetween

/-- A quotient above 1 is so by a unit of its divisor, and stays above 1 when it is rounded. -/
theorem quotient_atLeast (hx : Whole x m) (hy : Whole y n) (hn : n ≤ 2 ^ 48) (hpos : 0 < n)
    (hlt : n < m) : AtLeast (1 + 2 ^ (-48 : Int)) (x / y) := by
  have hn' : (0 : ℚ) < n := by exact_mod_cast hpos
  have hquotient := rounds_div hx.finite hy.finite (by rw [hy.amount_eq]; exact hn'.ne')
  rw [hx.amount_eq, hy.amount_eq] at hquotient
  refine hquotient.atLeast ⟨2 ^ 48 + 1, -48, by norm_num, by norm_num, by norm_num⟩
    (by positivity) ?_
  have hone : (n : ℚ) + 1 ≤ m := by exact_mod_cast hlt
  have hunit : (2 : ℚ) ^ (-48 : Int) * n ≤ 1 := by
    rw [zpow_neg, inv_mul_le_one₀ (two_zpow_pos 48)]
    exact_mod_cast hn
  rw [le_div_iff₀ hn', add_mul, one_mul]
  linarith

/-- A quotient in hundredths is above 100 just where it is above 1. -/
theorem hundredths (hx : Whole x m) (hy : Whole y n) (hn : n ≤ 2 ^ 48) (hpos : 0 < n) :
    0.0 ≤ x / y * 100.0 ∧ (x / y * 100.0 ≤ 100.0 ↔ m ≤ n) := by
  have hhundred := whole_hundred
  rcases Nat.lt_or_ge n m with hlt | hle
  · have hquotient := hx.quotient_atLeast hy hn hpos hlt
    have habove : AtLeast (100 + 2 ^ (-42 : Int)) (x / y * 100.0) := by
      refine hquotient.mul ⟨100 * 2 ^ 42 + 1, -42, by norm_num, by norm_num, by norm_num⟩
        (by positivity) hhundred.finite ?_ ?_
      · rw [hhundred.amount_eq]
        norm_num
      · rw [hhundred.amount_eq]
        norm_num
    refine ⟨zero_le_iff.2 (habove.mono (by positivity)), ?_⟩
    have hnot := habove.exceeds hhundred.finite (by rw [hhundred.amount_eq]; norm_num)
    exact ⟨fun h => absurd h hnot, fun h => absurd h (by omega)⟩
  · obtain ⟨hfinite, h0, h1⟩ := hx.quotient_le_one hy hpos hle
    have hproduct := rounds_mul hfinite hhundred.finite
    obtain ⟨hfinite', hge, hmost⟩ := hproduct.between hhundred.finite (by
      rw [hhundred.amount_eq]
      positivity) (by
      rw [hhundred.amount_eq]
      push_cast
      linarith)
    refine ⟨zero_le_iff.2 (.inr ⟨hfinite', hge⟩), ?_⟩
    exact ⟨fun _ => hle, fun _ => (le_iff_amount hfinite' hhundred.finite).2 hmost⟩

end Whole

/-! ### Reading digits -/

theorem numeral_read?_digits {ds : List Char} (hne : ds ≠ [])
    (hdigits : ∀ c ∈ ds, c.isDigit = true) : Numeral.read? ds = some ⟨ofDigits ds, 0⟩ := by
  have hwhole : ds.takeWhile Char.isDigit = ds := List.takeWhile_eq_self_iff.2 hdigits
  have hrest : ds.dropWhile Char.isDigit = [] := List.dropWhile_eq_nil_iff.2 hdigits
  simp [Numeral.read?, hwhole, hrest, hne]

theorem whole_toDouble {n : Nat} (hn : n < 2 ^ 53) : Whole (Numeral.toDouble ⟨n, 0⟩) n := by
  unfold Numeral.toDouble
  dsimp only
  by_cases h0 : n = 0
  · rw [if_pos h0, h0]
    exact .zero
  · have hlength : (natDigits n).length ≤ 16 := by
      have hlow := (length_natDigits (Nat.pos_of_ne_zero h0)).1
      by_contra hlt
      have hpow : 10 ^ 16 ≤ 10 ^ ((natDigits n).length - 1) :=
        Nat.pow_le_pow_right (by norm_num) (by omega)
      omega
    rw [if_neg h0, Decimal.powerBound, if_neg (by omega), if_neg (by omega)]
    exact Whole.ofNat hn

theorem readDouble?_digits {s ds : List Char} (hs : s = ds ∨ s = '+' :: ds) (hne : ds ≠ [])
    (hdigits : ∀ c ∈ ds, c.isDigit = true) :
    readDouble? s = some (Numeral.toDouble ⟨ofDigits ds, 0⟩) := by
  have hread := numeral_read?_digits hne hdigits
  rcases hs with rfl | rfl
  · obtain ⟨c, r, rfl⟩ := List.exists_cons_of_ne_nil hne
    have hc := hdigits c List.mem_cons_self
    unfold readDouble?
    split
    · next negative body hsign =>
      split at hsign
      · next heq =>
        cases heq
        simp at hc
      · next heq =>
        cases heq
        simp at hc
      · cases hsign
        rw [hread]
        rfl
  · simp [readDouble?, hread]

/-- Decimal digits are read as the whole number that they write. -/
theorem read?_of_writesNatural {limit n : Nat} {s : List Char} (h : WritesNatural limit s n)
    (hlimit : limit ≤ 2 ^ 53) : ∃ v, Value.read? s = some v ∧ Whole v.number n := by
  obtain ⟨ds, hs, hne, hdigits, rfl, hlt⟩ := h
  rw [Value.read?, readDouble?_digits hs hne hdigits]
  exact ⟨_, rfl, whole_toDouble (by omega)⟩

end HostTelemetry.Double
