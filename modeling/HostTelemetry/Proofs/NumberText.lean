import HostTelemetry.Decimal.Numeral
import Mathlib.Data.List.TakeWhile

/-!
# Numbers in structured texts

A number in a structured text has an optional minus sign, digits without a needless zero in front,
a point only between digits, and an optional power of ten. Whole numbers are written so, and
reading one gives it back.
-/

namespace HostTelemetry.Decimal

/-! ### Digits of whole numbers -/

theorem ofDigits_natDigits (n : Nat) : ofDigits (natDigits n) = n := Nat.ofDigitChars_ten_toDigits

theorem natDigits_injective {m n : Nat} (h : natDigits m = natDigits n) : m = n := by
  rw [← ofDigits_natDigits m, h, ofDigits_natDigits]

theorem natText_injective {m n : Nat} (h : natText m = natText n) : m = n :=
  natDigits_injective (String.ofList_injective h)

theorem isDigit_of_mem_natDigits {n : Nat} {c : Char} (h : c ∈ natDigits n) : c.isDigit = true :=
  Nat.isDigit_of_mem_toDigits (by decide) (by decide) h

theorem isDigit_natDigits (n : Nat) : ∀ c ∈ natDigits n, c.isDigit = true :=
  fun _ hc => isDigit_of_mem_natDigits hc

theorem natDigits_ne_nil (n : Nat) : natDigits n ≠ [] := Nat.toDigits_ne_nil

/-- Only the number zero starts with a zero. -/
theorem head?_natDigits (n : Nat) : (natDigits n).head? = some '0' ↔ n = 0 := by
  induction n using Nat.strongRecOn with
  | ind n ih =>
    by_cases h : n < 10
    · rw [natDigits, Nat.toDigits_of_lt_base h]
      simp
    · have hrest := ih (n / 10) (by omega)
      obtain ⟨d, r, hd⟩ := List.exists_cons_of_ne_nil (natDigits_ne_nil (n / 10))
      rw [natDigits, Nat.toDigits_of_base_le (by decide) (by omega)]
      rw [natDigits] at hd hrest
      rw [hd] at hrest ⊢
      have hpos : n / 10 ≠ 0 := by omega
      simpa [hpos, show n ≠ 0 by omega] using hrest

def readDigits? (s : List Char) : Option Nat :=
  if s.isEmpty || !s.all Char.isDigit then none else some (ofDigits s)

def readInteger? : List Char → Option Int
  | '-' :: r => (readDigits? r).map fun n => -(n : Int)
  | r => (readDigits? r).map Int.ofNat

theorem readDigits?_natDigits (n : Nat) : readDigits? (natDigits n) = some n := by
  have hall : (natDigits n).all Char.isDigit = true := List.all_eq_true.2 (isDigit_natDigits n)
  have hne : (natDigits n).isEmpty = false := by simpa using natDigits_ne_nil n
  rw [readDigits?, hall, hne, ofDigits_natDigits]
  rfl

theorem ne_minus_of_isDigit {c : Char} (h : c.isDigit = true) : c ≠ '-' := by
  rintro rfl
  simp at h

theorem readInteger?_of_isDigit {c : Char} {r : List Char} (h : c.isDigit = true) :
    readInteger? (c :: r) = (readDigits? (c :: r)).map Int.ofNat := by
  unfold readInteger?
  split
  · next heq =>
    cases heq
    exact absurd rfl (ne_minus_of_isDigit h)
  · rfl

theorem readInteger?_intDigits (i : Int) : readInteger? (intDigits i) = some i := by
  cases i with
  | ofNat n =>
    obtain ⟨d, r, hd⟩ := List.exists_cons_of_ne_nil (natDigits_ne_nil n)
    have hdigit : d.isDigit = true := isDigit_of_mem_natDigits (by rw [hd]; exact .head r)
    rw [intDigits, hd, readInteger?_of_isDigit hdigit, ← hd, readDigits?_natDigits]
    rfl
  | negSucc n =>
    rw [intDigits, readInteger?, readDigits?_natDigits]
    rfl

theorem intText_injective {i j : Int} (h : intText i = intText j) : i = j := by
  have hi := readInteger?_intDigits i
  rw [String.ofList_injective h, readInteger?_intDigits] at hi
  exact (Option.some.inj hi).symm

/-! ### Whole numbers below a limit -/

/-- How a number below a limit is written: in decimal digits, with a plus sign in front or none. -/
def WritesNatural (limit : Nat) (s : List Char) (n : Nat) : Prop :=
  ∃ ds, (s = ds ∨ s = '+' :: ds) ∧ ds ≠ [] ∧ (∀ c ∈ ds, c.isDigit = true) ∧ ofDigits ds = n ∧
    n < limit

/-- Digits that are read as a number below a limit. -/
theorem readDigits?_filter (limit : Nat) (ds : List Char) :
    (if ds.isEmpty || !ds.all Char.isDigit then none
      else if ofDigits ds < limit then some (ofDigits ds) else none) =
      (readDigits? ds).filter (· < limit) := by
  unfold readDigits?
  split
  · rfl
  · simp only [Option.filter_some, decide_eq_true_eq]

theorem readNatural?_plus (limit : Nat) (r : List Char) :
    readNatural? limit ('+' :: r) = (readDigits? r).filter (· < limit) :=
  readDigits?_filter limit r

theorem readNatural?_of_head? (limit : Nat) {s : List Char} (h : s.head? ≠ some '+') :
    readNatural? limit s = (readDigits? s).filter (· < limit) := by
  rw [readNatural?, ← readDigits?_filter]
  rintro r rfl
  exact h rfl

theorem readDigits?_eq_some_iff {s : List Char} {n : Nat} :
    readDigits? s = some n ↔ s ≠ [] ∧ (∀ c ∈ s, c.isDigit = true) ∧ ofDigits s = n := by
  rw [readDigits?, Option.ite_none_left_eq_some, Option.some.injEq, Bool.not_eq_true,
    Bool.or_eq_false_iff, Bool.not_eq_false', List.isEmpty_eq_false_iff, List.all_eq_true, and_assoc]

theorem readNatural?_eq_some_iff {limit n : Nat} {s : List Char} :
    readNatural? limit s = some n ↔ WritesNatural limit s n := by
  constructor
  · intro h
    by_cases hplus : s.head? = some '+'
    · obtain ⟨r, rfl⟩ := List.head?_eq_some_iff.1 hplus
      rw [readNatural?_plus, Option.filter_eq_some_iff, readDigits?_eq_some_iff,
        decide_eq_true_eq] at h
      obtain ⟨⟨hne, hdigits, hvalue⟩, hlt⟩ := h
      exact ⟨r, .inr rfl, hne, hdigits, hvalue, hlt⟩
    · rw [readNatural?_of_head? limit hplus, Option.filter_eq_some_iff, readDigits?_eq_some_iff,
        decide_eq_true_eq] at h
      obtain ⟨⟨hne, hdigits, hvalue⟩, hlt⟩ := h
      exact ⟨s, .inl rfl, hne, hdigits, hvalue, hlt⟩
  · rintro ⟨ds, hs, hne, hdigits, hvalue, hlt⟩
    have hread : (readDigits? ds).filter (· < limit) = some n := by
      rw [Option.filter_eq_some_iff, readDigits?_eq_some_iff, decide_eq_true_eq]
      exact ⟨⟨hne, hdigits, hvalue⟩, hlt⟩
    rcases hs with rfl | rfl
    · -- A digit is no plus sign.
      have hplus : s.head? ≠ some '+' := by
        intro hhead
        have hdigit := hdigits '+' (List.mem_of_head? hhead)
        simp at hdigit
      rw [readNatural?_of_head? limit hplus, hread]
    · rw [readNatural?_plus, hread]

theorem readNatural?_natText {limit n : Nat} (h : n < limit) :
    readNatural? limit (natText n).toList = some n :=
  readNatural?_eq_some_iff.2 ⟨natDigits n, .inl String.toList_ofList, natDigits_ne_nil n,
    isDigit_natDigits n, ofDigits_natDigits n, h⟩

/-! ### The form of a number -/

/-- Digits without a needless zero in front. -/
def isWhole (ds : List Char) : Bool := ds == ['0'] || !ds.isEmpty && ds.head? != some '0'

/-- What may stand behind the digits: a power of ten. -/
def isPowerTail : List Char → Bool
  | [] => true
  | c :: r => (c == 'e' || c == 'E') && (readPower? r).isSome

def isFractionTail : List Char → Bool
  | '.' :: r => !(r.takeWhile Char.isDigit).isEmpty && isPowerTail (r.dropWhile Char.isDigit)
  | r => isPowerTail r

def unsigned : List Char → List Char
  | '-' :: r => r
  | r => r

def isNumber (s : List Char) : Bool :=
  isWhole ((unsigned s).takeWhile Char.isDigit) &&
    isFractionTail ((unsigned s).dropWhile Char.isDigit)

/-- The double that a number in a structured text stands for. -/
def readNumber? (s : List Char) : Option Float := if isNumber s then readDouble? s else none

theorem isNumber_of_readNumber? {s : List Char} {x : Float} (h : readNumber? s = some x) :
    isNumber s = true := by
  unfold readNumber? at h
  split at h
  · assumption
  · cases h

def isNumberChar (c : Char) : Bool := c.isDigit || ['-', '+', '.', 'e', 'E'].contains c

theorem isWhole_natDigits (n : Nat) : isWhole (natDigits n) = true := by
  by_cases h : n = 0
  · subst h
    rfl
  · have hhead : (natDigits n).head? ≠ some '0' := fun h0 => h ((head?_natDigits n).1 h0)
    simp [isWhole, natDigits_ne_nil, hhead]

theorem unsigned_of_isDigit {c : Char} {s : List Char} (h : c.isDigit = true) :
    unsigned (c :: s) = c :: s := by
  unfold unsigned
  split
  · next heq =>
    cases heq
    exact absurd rfl (ne_minus_of_isDigit h)
  · rfl

theorem unsigned_natDigits (n : Nat) : unsigned (natDigits n) = natDigits n := by
  have hdigits := isDigit_natDigits n
  obtain ⟨d, r, hd⟩ := List.exists_cons_of_ne_nil (natDigits_ne_nil n)
  rw [hd] at hdigits ⊢
  exact unsigned_of_isDigit (hdigits d (.head r))

theorem isNumber_of_unsigned {s : List Char} {n : Nat} (h : unsigned s = natDigits n) :
    isNumber s = true := by
  have hdigits := isDigit_natDigits n
  rw [isNumber, h, List.takeWhile_eq_self_iff.2 hdigits, List.dropWhile_eq_nil_iff.2 hdigits,
    isWhole_natDigits]
  rfl

theorem isNumber_intDigits (i : Int) : isNumber (intDigits i) = true := by
  cases i with
  | ofNat n => exact isNumber_of_unsigned (unsigned_natDigits n)
  | negSucc n => exact isNumber_of_unsigned rfl

theorem isNumberChar_of_isDigit {c : Char} (h : c.isDigit = true) : isNumberChar c = true := by
  rw [isNumberChar, h]
  rfl

theorem isNumberChar_of_all {ds : List Char} (h : ds.all Char.isDigit = true) :
    ∀ c ∈ ds, isNumberChar c = true :=
  fun c hc => isNumberChar_of_isDigit (List.all_eq_true.1 h c hc)

theorem isNumberChar_of_readPower? {s : List Char} (h : (readPower? s).isSome = true) :
    ∀ c ∈ s, isNumberChar c = true := by
  have hdigits : ∀ (ds : List Char) (i : Int),
      (if ds.isEmpty || !ds.all Char.isDigit then none else some i).isSome = true →
        ∀ c ∈ ds, isNumberChar c = true := by
    intro ds i hi
    split at hi
    · cases hi
    · next hall =>
      refine isNumberChar_of_all ?_
      simp at hall
      simpa using hall.2
  simp only [readPower?] at h
  split at h
  · exact List.forall_mem_cons.2 ⟨rfl, hdigits _ _ h⟩
  · exact List.forall_mem_cons.2 ⟨rfl, hdigits _ _ h⟩
  · exact hdigits _ _ h

theorem isNumberChar_of_isPowerTail {s : List Char} (h : isPowerTail s = true) :
    ∀ c ∈ s, isNumberChar c = true := by
  cases s with
  | nil => simp
  | cons c r =>
    rw [isPowerTail, Bool.and_eq_true] at h
    have hc : isNumberChar c = true := by
      rcases Bool.or_eq_true_iff.1 h.1 with he | he
      · rw [eq_of_beq he]
        rfl
      · rw [eq_of_beq he]
        rfl
    exact List.forall_mem_cons.2 ⟨hc, isNumberChar_of_readPower? h.2⟩

theorem isNumberChar_of_digits_append {s : List Char}
    (h : ∀ c ∈ s.dropWhile Char.isDigit, isNumberChar c = true) :
    ∀ c ∈ s, isNumberChar c = true := by
  intro c hc
  rw [← List.takeWhile_append_dropWhile (p := Char.isDigit) (l := s), List.mem_append] at hc
  rcases hc with hc | hc
  · exact isNumberChar_of_isDigit (List.mem_takeWhile_imp hc)
  · exact h c hc

theorem isNumberChar_of_isFractionTail {s : List Char} (h : isFractionTail s = true) :
    ∀ c ∈ s, isNumberChar c = true := by
  unfold isFractionTail at h
  split at h
  · rw [Bool.and_eq_true] at h
    have hrest := isNumberChar_of_digits_append (isNumberChar_of_isPowerTail h.2)
    exact List.forall_mem_cons.2 ⟨rfl, hrest⟩
  · exact isNumberChar_of_isPowerTail h

theorem isNumberChar_of_isNumber {s : List Char} (h : isNumber s = true) :
    ∀ c ∈ s, isNumberChar c = true := by
  rw [isNumber, Bool.and_eq_true] at h
  have hrest := isNumberChar_of_digits_append (isNumberChar_of_isFractionTail h.2)
  unfold unsigned at hrest
  split at hrest
  · exact List.forall_mem_cons.2 ⟨rfl, hrest⟩
  · exact hrest

theorem ne_nil_of_isNumber {s : List Char} (h : isNumber s = true) : s ≠ [] := by
  rintro rfl
  cases h

end HostTelemetry.Decimal
