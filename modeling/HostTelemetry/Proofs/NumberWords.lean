import HostTelemetry.Proofs.LaidOutLines
import HostTelemetry.Proofs.WholeDoubles

/-!
# Numbers are words

Whatever is read as a number has at least one character and no blank. So the columns of a table
that are numbers are words of their line.
-/

namespace HostTelemetry.Decimal

open Text (IsWord isBlank)

variable {s : List Char}

theorem isBlank_eq_false_of_isNumberChar {c : Char} (h : isNumberChar c = true) :
    isBlank c = false := by
  rw [isNumberChar, Bool.or_eq_true, Char.isDigit, Bool.and_eq_true, decide_eq_true_eq,
    decide_eq_true_eq, List.contains_iff_mem] at h
  rcases h with ⟨hlow, hhigh⟩ | hmem
  · have hlow : 48 ≤ c.toNat := hlow
    have hhigh : c.toNat ≤ 57 := hhigh
    simp only [isBlank, Bool.or_eq_false_iff, Bool.and_eq_false_iff, beq_eq_false_iff_ne,
      decide_eq_false_iff_not]
    omega
  · have hall : ['-', '+', '.', 'e', 'E'].all (!isBlank ·) = true := rfl
    simpa using List.all_eq_true.1 hall c hmem

theorem isWord_intDigits (i : Int) : IsWord (intDigits i) where
  ne_nil := ne_nil_of_isNumber (isNumber_intDigits i)
  ink c hc := isBlank_eq_false_of_isNumberChar
    (isNumberChar_of_isNumber (isNumber_intDigits i) c hc)

/-! ### Numerals -/

/-- What stands behind the digits of a numeral is empty or a power of ten. -/
theorem isPowerTail_of_numeral (numeral : Int → Numeral) {n : Numeral} {rest : List Char}
    (h : (match rest with
      | [] => some (numeral 0)
      | c :: r => if c = 'e' ∨ c = 'E' then (readPower? r).map numeral else none) = some n) :
    isPowerTail rest = true := by
  cases rest with
  | nil => rfl
  | cons c r =>
    dsimp only at h
    split at h
    · next hc =>
      obtain ⟨p, hp, -⟩ := Option.map_eq_some_iff.1 h
      simpa [isPowerTail, hp] using hc
    · cases h

theorem isNumberChar_of_numeral {n : Numeral} (h : Numeral.read? s = some n) :
    ∀ c ∈ s, isNumberChar c = true := by
  refine isNumberChar_of_digits_append ?_
  unfold Numeral.read? at h
  dsimp only at h
  split at h
  · next r hpoint =>
    have htail := isPowerTail_of_numeral
      (fun power => ⟨ofDigits (s.takeWhile Char.isDigit ++ r.takeWhile Char.isDigit),
        power - (r.takeWhile Char.isDigit).length⟩) (Option.ite_none_left_eq_some.1 h).2
    rw [hpoint]
    exact List.forall_mem_cons.2
      ⟨rfl, isNumberChar_of_digits_append (isNumberChar_of_isPowerTail htail)⟩
  · have htail := isPowerTail_of_numeral
      (fun power => ⟨ofDigits (s.takeWhile Char.isDigit ++ []), power - ([] : List Char).length⟩)
      (Option.ite_none_left_eq_some.1 h).2
    exact isNumberChar_of_isPowerTail htail

theorem isWord_of_numeral {n : Numeral} (h : Numeral.read? s = some n) : IsWord s where
  ne_nil := by
    rintro rfl
    cases h
  ink c hc := isBlank_eq_false_of_isNumberChar (isNumberChar_of_numeral h c hc)

/-! ### Words that name a double -/

theorem toLower_of_isBlank {c : Char} (h : isBlank c = true) : c.toLower = c := by
  unfold Char.toLower
  split
  · next hupper =>
    have hlow : 65 ≤ c.toNat := hupper.1
    have hhigh : c.toNat ≤ 90 := hupper.2
    simp only [isBlank, Bool.or_eq_true, Bool.and_eq_true, beq_iff_eq, decide_eq_true_eq] at h
    omega
  · rfl

theorem isWord_of_namedDouble? {x : Float} (h : namedDouble? s = some x) : IsWord s := by
  have hword : ∀ w ∈ ["inf", "infinity", "nan"], s.map Char.toLower = w.toList → IsWord s := by
    intro w hw heq
    have hall : ∀ w ∈ ["inf", "infinity", "nan"], w.toList ≠ [] ∧
        w.toList.all (!isBlank ·) = true := by decide
    refine ⟨fun hnil => (hall w hw).1 (by rw [← heq, hnil, List.map_nil]), fun c hc => ?_⟩
    -- A blank is no capital letter, and would be left in the name.
    by_contra hblank
    rw [Bool.not_eq_false] at hblank
    have hmem : c ∈ w.toList := by
      rw [← heq, ← toLower_of_isBlank hblank]
      exact List.mem_map_of_mem hc
    simpa [hblank] using List.all_eq_true.1 (hall w hw).2 c hmem
  unfold namedDouble? at h
  dsimp only at h
  split at h
  · next hname =>
    rcases hname with hname | hname
    · exact hword "inf" (by simp) hname
    · exact hword "infinity" (by simp) hname
  · split at h
    · next hname => exact hword "nan" (by simp) hname
    · cases h

/-! ### Doubles and values -/

theorem isWord_cons {c : Char} (hc : isBlank c = false) (h : IsWord s) : IsWord (c :: s) :=
  ⟨by simp, List.forall_mem_cons.2 ⟨hc, h.ink⟩⟩

theorem isWord_of_readDouble? {x : Float} (h : readDouble? s = some x) : IsWord s := by
  unfold readDouble? at h
  split at h
  next negative body hsign =>
  have hbody : IsWord body := by
    obtain ⟨y, hy, -⟩ := Option.map_eq_some_iff.1 h
    split at hy
    · next n hnumeral => exact isWord_of_numeral hnumeral
    · exact isWord_of_namedDouble? hy
  split at hsign
  · obtain ⟨-, rfl⟩ := Prod.mk.inj hsign
    exact isWord_cons (by decide) hbody
  · obtain ⟨-, rfl⟩ := Prod.mk.inj hsign
    exact isWord_cons (by decide) hbody
  · obtain ⟨-, rfl⟩ := Prod.mk.inj hsign
    exact hbody

theorem isWord_of_value {v : Value} (h : Value.read? s = some v) : IsWord s := by
  obtain ⟨x, hx, -⟩ := Option.map_eq_some_iff.1 h
  exact isWord_of_readDouble? hx

/-! ### Whole numbers -/

/-- The double nearest to a whole number, as the value of a column. -/
def countValue (n : Nat) : Value := ⟨Numeral.toDouble ⟨n, 0⟩, false⟩

theorem read?_natDigits (n : Nat) : Value.read? (natDigits n) = some (countValue n) := by
  have hdouble := Double.readDouble?_digits (.inl rfl) (natDigits_ne_nil n)
    (isDigit_natDigits n)
  have hsign : (natDigits n).head? ≠ some '-' := fun hhead =>
    ne_minus_of_isDigit (isDigit_of_mem_natDigits (List.mem_of_head? hhead)) rfl
  rw [Value.read?, hdouble, ofDigits_natDigits, Option.map_some, beq_eq_false_iff_ne.2 hsign,
    Bool.and_false]
  rfl

end HostTelemetry.Decimal
