import HostTelemetry.Proofs.DoubleRounding

/-!
# Bits of doubles

The bits of a finite double are its sign, a field for its power and a fraction of its mantissa. So
a double is what its sign, its mantissa and its power are packed into, and packing loses nothing.
-/

namespace HostTelemetry.Double

open Float.Model Float.Model.UnpackedFloat
open HostTelemetry.Decimal (Binary)

variable {b : Binary}

/-! ### Bits -/

section Fields

variable (x : BitVec 64)

theorem toNat_unpackMantissa :
    (@unpackMantissa .binary64 x).toNat = x.toNat % 2 ^ 52 := by
  simp [unpackMantissa]

theorem toNat_unpackExponent :
    (@unpackExponent .binary64 x).toNat = x.toNat / 2 ^ 52 % 2 ^ 11 := by
  simp [unpackExponent, Nat.shiftRight_eq_div_pow]

theorem toNat_unpackSign : (@unpackSign .binary64 x).toNat = x.toNat / 2 ^ 63 := by
  have hlt : x.toNat < 2 ^ 64 := x.isLt
  simp [unpackSign, Nat.shiftRight_eq_div_pow]
  omega

end Fields

theorem toNat_append_one {n : Nat} (f : BitVec n) : (1#1 ++ f).toNat = 2 ^ n + f.toNat := by
  rw [BitVec.toNat_append, ← Nat.shiftLeft_add_eq_or_of_lt f.isLt]
  simp [Nat.shiftLeft_eq]

theorem toNat_packComponents (sign : Sign) (e : BitVec 11) (f : BitVec 52) :
    (packComponents .binary64 sign e f).toNat =
      sign.toBitVec.toNat * 2 ^ 63 + e.toNat * 2 ^ 52 + f.toNat := by
  rw [packComponents, BitVec.toNat_append, BitVec.toNat_append,
    ← Nat.shiftLeft_add_eq_or_of_lt f.isLt, ← Nat.shiftLeft_add_eq_or_of_lt e.isLt,
    Nat.shiftLeft_eq, Nat.shiftLeft_eq]
  ring

/-- How the mantissa and the power of a double stand in its bits. -/
def Fields (n mantissa : Nat) (power : Int) : Prop :=
  n / 2 ^ 52 % 2 ^ 11 = 0 ∧ mantissa = n % 2 ^ 52 ∧ power = -1074 ∨
    0 < n / 2 ^ 52 % 2 ^ 11 ∧ n / 2 ^ 52 % 2 ^ 11 < 2047 ∧ mantissa = 2 ^ 52 + n % 2 ^ 52 ∧
      power = (n / 2 ^ 52 % 2 ^ 11 : Nat) - 1075

theorem Fields.lt {n mantissa : Nat} {power : Int} (h : Fields n mantissa power) :
    n / 2 ^ 52 % 2 ^ 11 < 2047 := by
  rcases h with h | h <;> omega

theorem unpack_eq {x : BitVec 64} {mantissa : Nat} {power : Int} (hpos : 0 < mantissa)
    (h : Fields x.toNat mantissa power) :
    UnpackedFloat.unpack .binary64 x =
      .finite (.ofBitVec (@unpackSign .binary64 x)) mantissa power hpos := by
  have hfield := toNat_unpackExponent x
  have hfraction := toNat_unpackMantissa x
  have hbias : (Format.binary64.exponentBias : Int) = 1023 := rfl
  have hones : @unpackExponent .binary64 x ≠ -1#11 := by
    intro heq
    have hfull : x.toNat / 2 ^ 52 % 2 ^ 11 = 2047 := by
      rw [← hfield, heq]
      rfl
    exact absurd h.lt (by omega)
  unfold UnpackedFloat.unpack
  dsimp only
  rw [if_neg hones]
  rcases h with ⟨h0, hm, he⟩ | ⟨h0, hlt, hm, he⟩
  · have hzero : @unpackExponent .binary64 x = 0#11 :=
      BitVec.eq_of_toNat_eq (hfield.trans h0)
    have hne : @unpackMantissa .binary64 x ≠ 0#52 := by
      intro heq
      have hnone : x.toNat % 2 ^ 52 = 0 := by
        rw [← hfraction, heq]
        rfl
      omega
    rw [if_pos hzero, dif_neg hne]
    congr 1
    · rw [hm, hfraction]
    · rw [hfield, hbias, he, h0]
      rfl
  · have hne : @unpackExponent .binary64 x ≠ 0#11 := by
      intro heq
      have hnone : x.toNat / 2 ^ 52 % 2 ^ 11 = 0 := by
        rw [← hfield, heq]
        rfl
      omega
    rw [if_neg hne]
    congr 1
    · rw [toNat_append_one, hm, hfraction]
    · rw [hfield, hbias, he]
      norm_num

theorem toNat_pack (sign : Sign) (hb : Regular b) :
    ∃ field, (UnpackedFloat.pack .binary64 (.finite sign b.mantissa b.power hb.pos)).toNat =
        sign.toBitVec.toNat * 2 ^ 63 + field * 2 ^ 52 + b.mantissa % 2 ^ 52 ∧
      (field = 0 ∧ b.mantissa < 2 ^ 52 ∨
        0 < field ∧ field < 2047 ∧ 2 ^ 52 ≤ b.mantissa ∧ b.power = field - 1075) := by
  have hlt := hb.lt
  have hleast := hb.least
  have hmost := hb.most
  have hfull := hb.full
  obtain ⟨field, hfield⟩ : ∃ field : Nat, b.power + 1075 = field :=
    ⟨(b.power + 1075).toNat, by omega⟩
  have hexponent : (b.power + Format.binary64.exponentBias +
      Format.binary64.mantissaBitsWithoutImplicit).toNat = field := by
    have hbias : (Format.binary64.exponentBias : Int) = 1023 := rfl
    rw [hbias]
    norm_num
    omega
  have hlog : b.mantissa.log2 + 1 = Format.binary64.mantissaBits ↔ 2 ^ 52 ≤ b.mantissa := by
    have hbits : Format.binary64.mantissaBits = 53 := rfl
    have hle := Nat.le_log2 (k := 52) hb.pos.ne'
    have hlt' := Nat.log2_lt (k := 53) hb.pos.ne'
    rw [hbits, ← hle]
    omega
  unfold UnpackedFloat.pack
  dsimp only
  rw [hexponent, if_neg (by norm_num; omega)]
  split
  · next h =>
    refine ⟨field, ?_, .inr ⟨by omega, by omega, hlog.1 h, by omega⟩⟩
    rw [toNat_packComponents, BitVec.toNat_ofNat, BitVec.toNat_ofNat]
    have hsmall : field % 2 ^ Format.binary64.exponentBits = field :=
      Nat.mod_eq_of_lt (by norm_num; omega)
    rw [hsmall]
  · next h =>
    refine ⟨0, ?_, .inl ⟨rfl, Nat.lt_of_not_le fun hle => h (hlog.2 hle)⟩⟩
    rw [toNat_packComponents, BitVec.toNat_ofNat]
    rfl

theorem fields_pack (sign : Sign) (hb : Regular b) :
    let x := UnpackedFloat.pack .binary64 (.finite sign b.mantissa b.power hb.pos)
    Fields x.toNat b.mantissa b.power ∧ x.toNat / 2 ^ 63 = sign.toBitVec.toNat := by
  obtain ⟨field, heq, hfield⟩ := toNat_pack sign hb
  have hlt := hb.lt
  have hsign := sign.toBitVec.isLt
  have hfull := hb.full
  dsimp only
  rw [heq, Fields]
  omega

theorem unpack_pack (sign : Sign) (hb : Regular b) :
    (Float.Model.pack (.finite sign b.mantissa b.power hb.pos)).unpack =
      .finite sign b.mantissa b.power hb.pos := by
  obtain ⟨hfields, hsign⟩ := fields_pack sign hb
  have hbits := unpack_eq hb.pos hfields
  rw [← toNat_unpackSign] at hsign
  rw [BitVec.eq_of_toNat_eq hsign, Sign.ofBitVec_toBitVec] at hbits
  exact hbits

/-! ### Finite doubles -/

def signOf (x : Float) : Sign := .ofBitVec (@unpackSign .binary64 x.toBits.toBitVec)

theorem signOf_eq (x : Float) :
    signOf x = if x.toBits.toNat / 2 ^ 63 = 1 then .negative else .positive := by
  have hsign := toNat_unpackSign x.toBits.toBitVec
  have hbits : x.toBits.toBitVec.toNat = x.toBits.toNat := rfl
  rw [← hbits, ← hsign, signOf]
  rcases BitVec.eq_zero_or_eq_one (@unpackSign .binary64 x.toBits.toBitVec) with h | h <;>
    rw [h] <;> rfl

theorem field_lt_of_isFinite {x : Float} (h : x.isFinite = true) :
    x.toBits.toNat / 2 ^ 52 % 2 ^ 11 < 2047 := by
  by_contra hge
  have hones : @unpackExponent .binary64 x.toBits.toBitVec = -1#11 := by
    refine BitVec.eq_of_toNat_eq ((toNat_unpackExponent _).trans ?_)
    have hfull : x.toBits.toNat / 2 ^ 52 % 2 ^ 11 = 2047 := by omega
    exact hfull
  have hunpack : x.isFinite = (UnpackedFloat.unpack .binary64 x.toBits.toBitVec).isFinite := rfl
  rw [hunpack, UnpackedFloat.unpack, if_pos hones] at h
  split at h <;> cases h

theorem ofDouble_cases (x : Float) :
    (x.toBits.toNat / 2 ^ 52 % 2 ^ 11 = 0 ∧
      Binary.ofDouble x = ⟨x.toBits.toNat % 2 ^ 52, -1074, false⟩) ∨
    (0 < x.toBits.toNat / 2 ^ 52 % 2 ^ 11 ∧
      Binary.ofDouble x = ⟨2 ^ 52 + x.toBits.toNat % 2 ^ 52,
        (x.toBits.toNat / 2 ^ 52 % 2 ^ 11 : Nat) - 1075,
        x.toBits.toNat % 2 ^ 52 == 0 && decide (1 < x.toBits.toNat / 2 ^ 52 % 2 ^ 11)⟩) := by
  by_cases h : x.toBits.toNat / 2 ^ 52 % 2 ^ 11 = 0
  · exact .inl ⟨h, if_pos h⟩
  · exact .inr ⟨Nat.pos_of_ne_zero h, if_neg h⟩

theorem fields_ofDouble {x : Float} (h : x.isFinite = true) :
    Fields x.toBits.toNat (Binary.ofDouble x).mantissa (Binary.ofDouble x).power := by
  have hlt := field_lt_of_isFinite h
  rcases ofDouble_cases x with ⟨h0, heq⟩ | ⟨h0, heq⟩
  · rw [heq]
    exact .inl ⟨h0, rfl, rfl⟩
  · rw [heq]
    exact .inr ⟨h0, hlt, rfl, rfl⟩

theorem regular_ofDouble {x : Float} (h : x.isFinite = true)
    (hne : (Binary.ofDouble x).mantissa ≠ 0) : Regular (Binary.ofDouble x) := by
  have hlt := field_lt_of_isFinite h
  rcases ofDouble_cases x with ⟨h0, heq⟩ | ⟨h0, heq⟩
  · rw [heq] at hne ⊢
    constructor <;> dsimp only at hne ⊢ <;> try omega
    simp
  · rw [heq] at hne ⊢
    constructor <;> dsimp only at hne ⊢ <;> try omega
    simp
    omega

theorem unpack_of_isFinite {x : Float} (h : x.isFinite = true)
    (hne : (Binary.ofDouble x).mantissa ≠ 0) :
    x.toModel.unpack = .finite (signOf x) (Binary.ofDouble x).mantissa (Binary.ofDouble x).power
      (Nat.pos_of_ne_zero hne) :=
  unpack_eq (Nat.pos_of_ne_zero hne) (fields_ofDouble h)

/-- The double of a sign, a mantissa and a power. -/
def assemble (sign : Sign) (hb : Regular b) : Float :=
  .ofModel (.pack (.finite sign b.mantissa b.power hb.pos))

theorem assemble_ofDouble {x : Float} (h : x.isFinite = true)
    (hne : (Binary.ofDouble x).mantissa ≠ 0) :
    assemble (signOf x) (regular_ofDouble h hne) = x := by
  rw [assemble, ← unpack_of_isFinite h hne]
  exact Float.ofBits_toBits x

theorem eq_zero_of_mantissa {x : Float} (h : x.isFinite = true)
    (h0 : (Binary.ofDouble x).mantissa = 0) :
    x = if x.toBits.toNat / 2 ^ 63 = 1 then -0.0 else 0.0 := by
  have hlt : x.toBits.toNat < 2 ^ 64 := x.toBits.toNat_lt
  have hfields := fields_ofDouble h
  rw [h0] at hfields
  have hpositive : (0.0 : Float).toBits.toNat = 0 := by decide +kernel
  have hnegative : (-0.0 : Float).toBits.toNat = 2 ^ 63 := by decide +kernel
  rcases hfields with ⟨h1, h2, -⟩ | ⟨h1, -, h2, -⟩
  · refine Float.toBits_inj.mp (UInt64.toNat_inj.mp ?_)
    split
    · rw [hnegative]
      omega
    · rw [hpositive]
      omega
  · omega

end HostTelemetry.Double
