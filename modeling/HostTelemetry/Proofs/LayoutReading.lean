import HostTelemetry.Decimal.Layout
import HostTelemetry.Proofs.NumberText
import HostTelemetry.Proofs.ShortestDecimal

/-!
# Reading layouts back

A layout writes digits, perhaps with zeros, a point or a power of ten, and the text is a numeral of
the same value. The value of the shortest decimal of a double rounds to the double. So the text of a
finite double reads back as that double.
-/

namespace HostTelemetry.Decimal

open Double (value)

/-! ### Digits -/

theorem ofDigits_append (a b : List Char) :
    ofDigits (a ++ b) = ofDigits a * 10 ^ b.length + ofDigits b := by
  induction b using List.reverseRecOn with
  | nil => simp [ofDigits]
  | append_singleton b c ih =>
    have hlast : ∀ l, ofDigits (l ++ [c]) = 10 * ofDigits l + digitValue c := by
      intro l
      rw [ofDigits, List.foldl_append]
      rfl
    rw [← List.append_assoc, hlast, hlast, ih, List.length_append, List.length_singleton,
      pow_succ]
    ring

theorem ofDigits_zeros (n : Nat) : ofDigits (List.replicate n '0') = 0 := by
  induction n with
  | zero => rfl
  | succ n ih =>
    rw [List.replicate_succ', ofDigits_append, ih]
    rfl

/-! ### Numerals in parts -/

/-- A point and digits behind it, if there are any. -/
def dotted (fraction : List Char) : List Char :=
  match fraction with
  | [] => []
  | ds => '.' :: ds

/-- What stands behind the digits, and the power of ten that it says. -/
inductive Tail : List Char → Int → Prop
  | none : Tail [] 0
  | power {s : List Char} {p : Int} : readPower? s = some p → Tail ('e' :: s) p

theorem split_digits {ds rest : List Char} (hds : ∀ c ∈ ds, c.isDigit = true)
    (hrest : ∀ c ∈ rest.head?, c.isDigit = false) :
    (ds ++ rest).takeWhile Char.isDigit = ds ∧ (ds ++ rest).dropWhile Char.isDigit = rest := by
  rw [List.takeWhile_append_of_pos hds, List.dropWhile_append_of_pos hds]
  cases rest with
  | nil => simp
  | cons c rest =>
    have hc : c.isDigit = false := hrest c rfl
    simp [hc]

theorem Tail.isPowerTail {tail : List Char} {p : Int} (h : Tail tail p) :
    isPowerTail tail = true := by
  cases h with
  | none => rfl
  | power hp => simp [Decimal.isPowerTail, hp]

theorem Tail.head {tail : List Char} {p : Int} (h : Tail tail p) :
    ∀ c ∈ tail.head?, c.isDigit = false := by
  rintro c hc
  cases h with
  | none => cases hc
  | power hp => cases hc; rfl

theorem dotted_head (fraction : List Char) {tail : List Char} {p : Int} (h : Tail tail p) :
    ∀ c ∈ (dotted fraction ++ tail).head?, c.isDigit = false := by
  cases fraction with
  | nil => exact h.head
  | cons d ds =>
    rintro c hc
    cases hc
    rfl

theorem isNumber_parts {whole fraction tail : List Char} {p : Int}
    (hwhole : ∀ c ∈ whole, c.isDigit = true) (hfraction : ∀ c ∈ fraction, c.isDigit = true)
    (hform : isWhole whole = true) (htail : Tail tail p) :
    isNumber (whole ++ (dotted fraction ++ tail)) = true := by
  obtain ⟨htake, hdrop⟩ := split_digits hwhole (dotted_head fraction htail)
  have hunsigned : unsigned (whole ++ (dotted fraction ++ tail)) =
      whole ++ (dotted fraction ++ tail) := by
    cases whole with
    | nil => cases hform
    | cons c whole => exact unsigned_of_isDigit (hwhole c (.head whole))
  have hrest : isFractionTail (dotted fraction ++ tail) = true := by
    cases fraction with
    | nil =>
      cases htail with
      | none => rfl
      | power hp => exact (Tail.power hp).isPowerTail
    | cons d ds =>
      obtain ⟨htake, hdrop⟩ := split_digits hfraction htail.head
      rw [List.cons_append] at htake hdrop
      simp [dotted, isFractionTail, htake, hdrop, htail.isPowerTail]
  rw [isNumber, hunsigned, htake, hdrop, hform, hrest]
  rfl

theorem read?_parts {whole fraction tail : List Char} {p : Int}
    (hwhole : ∀ c ∈ whole, c.isDigit = true) (hfraction : ∀ c ∈ fraction, c.isDigit = true)
    (hform : isWhole whole = true) (htail : Tail tail p) :
    Numeral.read? (whole ++ (dotted fraction ++ tail)) =
      some ⟨ofDigits (whole ++ fraction), p - fraction.length⟩ := by
  obtain ⟨htake, hdrop⟩ := split_digits hwhole (dotted_head fraction htail)
  have hne : whole.isEmpty = false := by
    cases whole with
    | nil => cases hform
    | cons c whole => rfl
  unfold Numeral.read?
  rw [htake, hdrop]
  cases fraction with
  | nil =>
    cases htail with
    | none => simp [hne, dotted]
    | power hp => simp [hne, dotted, hp]
  | cons d ds =>
    obtain ⟨htake', hdrop'⟩ := split_digits hfraction htail.head
    rw [List.cons_append] at htake' hdrop'
    simp only [dotted, List.cons_append]
    rw [htake', hdrop']
    cases htail with
    | none => simp
    | power hp => simp [hp]

/-! ### Layouts -/

/-- A text that is a number and reads as some numeral of a given value. -/
def Spells (s : List Char) (v : ℚ) : Prop :=
  isNumber s = true ∧ ∃ n, Numeral.read? s = some n ∧ value n = v

theorem spells_parts (whole fraction : List Char) {tail : List Char} {p : Int}
    (hwhole : ∀ c ∈ whole, c.isDigit = true) (hfraction : ∀ c ∈ fraction, c.isDigit = true)
    (hform : isWhole whole = true) (htail : Tail tail p) :
    Spells (whole ++ (dotted fraction ++ tail))
      (ofDigits (whole ++ fraction) * 10 ^ (p - fraction.length)) :=
  ⟨isNumber_parts hwhole hfraction hform htail, _, read?_parts hwhole hfraction hform htail, rfl⟩

section Spelling

variable {n : Nat}

theorem isDigit_of_mem_zeros {k : Nat} {c : Char} (h : c ∈ List.replicate k '0') :
    c.isDigit = true := by
  rw [List.eq_of_mem_replicate h]
  rfl

theorem isWhole_of_head? (hn : 0 < n) {s : List Char} (h : s.head? = (natDigits n).head?) :
    isWhole s = true := by
  have hzero : (natDigits n).head? ≠ some '0' := fun h0 => hn.ne' ((head?_natDigits n).1 h0)
  have hne : s.isEmpty = false := by
    cases s with
    | nil => exact absurd (List.head?_eq_none_iff.1 h.symm) (natDigits_ne_nil n)
    | cons c s => rfl
  rw [← h] at hzero
  simp [isWhole, hne, hzero]

theorem dotted_of_ne_nil {ds : List Char} (h : ds ≠ []) : dotted ds = '.' :: ds := by
  cases ds with
  | nil => exact absurd rfl h
  | cons d ds => rfl

/-- A whole number with zeros behind it. -/
theorem spells_padded (hn : 0 < n) (k : Nat) :
    Spells (natDigits n ++ List.replicate k '0' ++ ['.', '0']) (n * 10 ^ (k : Int)) := by
  have hhead : (natDigits n ++ List.replicate k '0').head? = (natDigits n).head? :=
    List.head?_append_of_ne_nil _ (natDigits_ne_nil n)
  have hspelled := spells_parts (natDigits n ++ List.replicate k '0') ['0']
    (List.forall_mem_append.2 ⟨isDigit_natDigits n, fun _ => isDigit_of_mem_zeros⟩) (by simp)
    (isWhole_of_head? hn hhead) .none
  have hvalue : (ofDigits (natDigits n ++ List.replicate k '0' ++ ['0']) : ℚ) *
      10 ^ ((0 : Int) - ['0'].length) = n * 10 ^ (k : Int) := by
    have hlast : ofDigits ['0'] = 0 := rfl
    rw [ofDigits_append, ofDigits_append, ofDigits_zeros, ofDigits_natDigits, hlast,
      List.length_replicate, zpow_natCast]
    push_cast
    rw [add_zero, add_zero, mul_assoc]
    norm_num
  rwa [hvalue] at hspelled

/-- A number below one, with zeros between the point and its digits. -/
theorem spells_below (n k : Nat) :
    Spells ('0' :: '.' :: List.replicate k '0' ++ natDigits n)
      (n * 10 ^ (-(k + (natDigits n).length) : Int)) := by
  have hspelled := spells_parts ['0'] (List.replicate k '0' ++ natDigits n) (by simp)
    (List.forall_mem_append.2 ⟨fun _ => isDigit_of_mem_zeros, isDigit_natDigits n⟩) rfl .none
  have hne : List.replicate k '0' ++ natDigits n ≠ [] :=
    List.append_ne_nil_of_right_ne_nil _ (natDigits_ne_nil n)
  have hdigits : ofDigits (['0'] ++ (List.replicate k '0' ++ natDigits n)) = n := by
    have hfirst : ofDigits ['0'] = 0 := rfl
    rw [ofDigits_append, ofDigits_append, ofDigits_zeros, ofDigits_natDigits, hfirst]
    simp
  rw [dotted_of_ne_nil hne, hdigits, List.length_append, List.length_replicate, zero_sub]
    at hspelled
  simpa using hspelled

/-- A number with a point between its digits. -/
theorem spells_pointed (hn : 0 < n) {k : Nat} (hk : 0 < k) (hlt : k < (natDigits n).length) :
    Spells ((natDigits n).take k ++ '.' :: (natDigits n).drop k)
      (n * 10 ^ (k - (natDigits n).length : Int)) := by
  have hhead : ((natDigits n).take k).head? = (natDigits n).head? := by
    rw [List.head?_take, if_neg hk.ne']
  have hspelled := spells_parts ((natDigits n).take k) ((natDigits n).drop k)
    (fun c hc => isDigit_natDigits n c (List.mem_of_mem_take hc))
    (fun c hc => isDigit_natDigits n c (List.mem_of_mem_drop hc)) (isWhole_of_head? hn hhead) .none
  have hne : (natDigits n).drop k ≠ [] := by
    rw [Ne, List.drop_eq_nil_iff]
    omega
  rw [dotted_of_ne_nil hne, List.take_append_drop, ofDigits_natDigits, List.length_drop,
    List.append_nil, Nat.cast_sub hlt.le, zero_sub, neg_sub] at hspelled
  exact hspelled

theorem spells_positional (hn : 0 < n) (l : Layout) (hpoint : l.keepPoint = true) (e : Int) :
    Spells (l.positional (natDigits n) e) (n * 10 ^ e) := by
  simp only [Layout.positional, hpoint, if_true]
  split
  · next he =>
    obtain ⟨k, rfl⟩ := Int.eq_ofNat_of_zero_le he
    exact spells_padded hn k
  · next he =>
    split
    · next hless =>
      have hspelled := spells_below n (-((natDigits n).length + e)).toNat
      rwa [show -(((-((natDigits n).length + e)).toNat : Int) + (natDigits n).length) = e by omega]
        at hspelled
    · next hmore =>
      obtain ⟨k, hk⟩ : ∃ k : Nat, (natDigits n).length + e = k :=
        ⟨((natDigits n).length + e).toNat, by omega⟩
      have hspelled := spells_pointed hn (k := k) (by omega) (by omega)
      rw [hk, Int.toNat_natCast]
      rwa [show (k : Int) - (natDigits n).length = e by omega] at hspelled

theorem readPower?_signed (p : Int) :
    readPower? ((if p < 0 then '-' else '+') :: natDigits p.natAbs) = some p := by
  have hall : (natDigits p.natAbs).all Char.isDigit = true :=
    List.all_eq_true.2 (isDigit_natDigits _)
  have hne : (natDigits p.natAbs).isEmpty = false := by simpa using natDigits_ne_nil p.natAbs
  by_cases hp : p < 0
  · have habs : -(p.natAbs : Int) = p := by omega
    rw [if_pos hp, readPower?]
    simp only [hall, hne, ofDigits_natDigits, habs, Bool.not_true, Bool.or_self,
      Bool.false_eq_true, if_false, if_true]
  · have habs : (p.natAbs : Int) = p := by omega
    rw [if_neg hp, readPower?]
    simp only [hall, hne, ofDigits_natDigits, habs, Bool.not_true, Bool.or_self,
      Bool.false_eq_true, if_false]

theorem spells_scientific (hn : 0 < n) (e : Int) :
    Spells (Layout.scientific (natDigits n) ((natDigits n).length + e - 1)) (n * 10 ^ e) := by
  have hdigits := isDigit_natDigits n
  have hvalue := ofDigits_natDigits n
  have hhead : ((natDigits n).take 1).head? = (natDigits n).head? := by
    rw [List.head?_take, if_neg one_ne_zero]
  have hform := isWhole_of_head? hn hhead
  obtain ⟨d, r, hd⟩ := List.exists_cons_of_ne_nil (natDigits_ne_nil n)
  rw [hd] at hdigits hvalue hform ⊢
  obtain ⟨hfirst, hrest⟩ := List.forall_mem_cons.1 hdigits
  have hspelled := spells_parts [d] r (by simpa using hfirst) hrest hform
    (.power (readPower?_signed ((d :: r).length + e - 1)))
  have hexponent : ((d :: r).length : Int) + e - 1 - r.length = e := by
    rw [List.length_cons]
    push_cast
    omega
  rw [hexponent] at hspelled
  rw [← hvalue]
  cases r with
  | nil => exact hspelled
  | cons c r => exact hspelled

end Spelling

theorem spells_numeral (l : Layout) (hpoint : l.keepPoint = true) {n : Numeral}
    (hn : 0 < n.significand) : Spells (l.numeral n) (value n) := by
  simp only [Layout.numeral]
  split
  · exact spells_positional hn l hpoint n.exponent
  · exact spells_scientific hn n.exponent

/-! ### Reading back -/

open Double (Regular Captures assemble)

theorem Spells.sign {s : List Char} {v : ℚ} (h : Spells s v) :
    (∀ r, s ≠ '-' :: r) ∧ ∀ r, s ≠ '+' :: r := by
  obtain ⟨-, n, hn, -⟩ := h
  constructor
  · rintro r rfl
    cases hn
  · rintro r rfl
    cases hn

/-- A text without a sign and the same text behind a minus sign. -/
theorem Spells.readNumber? {s : List Char} {v : ℚ} (h : Spells s v) {b : Binary} (hb : Regular b)
    (hv : Captures b v) : readNumber? s = some (assemble .positive hb) ∧
      readNumber? ('-' :: s) = some (-assemble .positive hb) := by
  obtain ⟨hminus, hplus⟩ := h.sign
  obtain ⟨hnumber, n, hn, rfl⟩ := h
  have hunsigned : unsigned s = s := by
    unfold unsigned
    split
    · exact absurd rfl (hminus _)
    · rfl
  have hnegative : isNumber ('-' :: s) = true := by
    rw [isNumber, hunsigned] at hnumber
    exact hnumber
  have hdouble := Double.toDouble_eq hb hv
  constructor
  · have hread : readDouble? s = some n.toDouble := by
      unfold readDouble?
      split
      · next heq =>
        split at heq
        · exact absurd rfl (hminus _)
        · exact absurd rfl (hplus _)
        · cases heq
          simp [hn]
    rw [Decimal.readNumber?, if_pos hnumber, hread, hdouble]
  · have hread : readDouble? ('-' :: s) = some (-n.toDouble) := by
      simp [readDouble?, hn]
    rw [Decimal.readNumber?, if_pos hnegative, hread, hdouble]

theorem neg_assemble {b : Binary} (hb : Regular b) :
    -assemble .positive hb = assemble .negative hb := by
  have hneg : -assemble .positive hb =
      .ofModel (.pack (assemble .positive hb).toModel.unpack.neg) := rfl
  rw [hneg, assemble, Double.unpack_pack .positive hb, assemble]
  rfl

theorem beq_zero_of_mantissa {x : Float} (h : x.isFinite = true)
    (hne : (Binary.ofDouble x).mantissa ≠ 0) : (x == 0.0) = false := by
  have hbits : (0.0 : Float) = Float.ofBits 0 := by decide +kernel
  have hzero : (Float.ofBits 0).toModel.unpack = .zero .positive := rfl
  have hbeq : (x == 0.0) = x.toModel.unpack.beq (0.0 : Float).toModel.unpack := rfl
  rw [hbeq, Double.unpack_of_isFinite h hne, hbits, hzero]
  cases Double.signOf x <;> rfl

/-- What is written on the wire for a finite double reads back as that double. -/
theorem readNumber?_wire {x : Float} (h : x.isFinite = true) :
    readNumber? (Layout.wire.finite x) = some x := by
  by_cases h0 : (Binary.ofDouble x).mantissa = 0
  · rw [Double.eq_zero_of_mantissa h h0]
    split
    · decide +kernel
    · decide +kernel
  · have hb := Double.regular_ofDouble h h0
    have hcaptured := captures_shortest Layout.wire.tie hb
    have hspelled := spells_numeral .wire rfl (hcaptured.significand_pos hb)
    obtain ⟨hpositive, hnegative⟩ := hspelled.readNumber? hb hcaptured
    rw [neg_assemble] at hnegative
    have hx := Double.assemble_ofDouble h h0
    have hfinite : Layout.wire.finite x = (if x.toBits.toNat / 2 ^ 63 = 1 then ['-'] else []) ++
        Layout.wire.numeral (shortest Layout.wire.tie x) := by
      rw [Layout.finite, beq_zero_of_mantissa h h0]
      rfl
    rw [Double.signOf_eq] at hx
    rw [hfinite]
    split at hx
    · next hsign =>
      rw [if_pos hsign, List.singleton_append, hnegative, hx]
    · next hsign =>
      rw [if_neg hsign, List.nil_append, hpositive, hx]

end HostTelemetry.Decimal
