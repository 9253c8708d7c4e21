import HostTelemetry.Duration
import HostTelemetry.Proofs.ByteSlices
import HostTelemetry.Proofs.NumberWords

/-!
# How durations are written

A duration is a number in decimal digits, and perhaps a letter for its unit behind it, with any
blanks in between and around. Every text of this form is read as the product of the number and the
unit, as long as both are below `2 ^ 64`, and no other text is read. The letter is cut off by its
length in bytes, which is one.
-/

namespace HostTelemetry

open Text (IsTrimmed IsWord isBlank trim trimmed slice?)
open Decimal (WritesNatural limit64 natDigits)

/-- What may stand behind the number of a duration, and the seconds that it counts. -/
def suffixes : List (List Char × Nat) :=
  [([], 1), (['s'], 1), (['S'], 1), (['m'], 60), (['M'], 60), (['h'], 3600), (['H'], 3600)]

/-- How a duration is written: a number, any blanks, and a letter for its unit or none. -/
def WritesDuration (s : List Char) (d : Duration) : Prop :=
  ∃ number gap suffix n unit, s = number ++ gap ++ suffix ∧ WritesNatural limit64 number n ∧
    (∀ c ∈ gap, isBlank c = true) ∧ (suffix, unit) ∈ suffixes ∧ n * unit < limit64 ∧
    d = .ofSeconds (n * unit)

variable {digits number suffix : List Char} {c : Char} {n unit : Nat}

/-! ### Suffixes -/

theorem suffixSeconds?_eq_some_iff : suffixSeconds? c = some unit ↔ ([c], unit) ∈ suffixes := by
  unfold suffixSeconds?
  constructor
  · intro h
    split at h
    · next hc => rcases hc with rfl | rfl <;> cases h <;> decide
    · split at h
      · next hc => rcases hc with rfl | rfl <;> cases h <;> decide
      · split at h
        · next hc => rcases hc with rfl | rfl <;> cases h <;> decide
        · cases h
  · intro h
    simp only [suffixes, List.mem_cons, List.not_mem_nil, or_false, Prod.mk.injEq, List.cons.injEq,
      reduceCtorEq, and_true, false_and, false_or] at h
    rcases h with ⟨rfl, rfl⟩ | ⟨rfl, rfl⟩ | ⟨rfl, rfl⟩ | ⟨rfl, rfl⟩ | ⟨rfl, rfl⟩ | ⟨rfl, rfl⟩
    all_goals rfl

/-- A suffix is empty, or one letter that is neither a digit nor a blank and takes one byte. -/
theorem suffix_cases (h : (suffix, unit) ∈ suffixes) : suffix = [] ∨
    ∃ letter, suffix = [letter] ∧ isBlank letter = false ∧ letter.isDigit = false ∧
      letter.utf8Size = 1 := by
  simp only [suffixes, List.mem_cons, List.not_mem_nil, or_false, Prod.mk.injEq] at h
  rcases h with ⟨rfl, -⟩ | ⟨rfl, -⟩ | ⟨rfl, -⟩ | ⟨rfl, -⟩ | ⟨rfl, -⟩ | ⟨rfl, -⟩ | ⟨rfl, -⟩
  · exact .inl rfl
  all_goals exact .inr ⟨_, rfl, rfl, rfl, rfl⟩

theorem suffixSeconds?_eq_none (h : isBlank c = true ∨ c.isDigit = true) :
    suffixSeconds? c = none := by
  cases hc : suffixSeconds? c with
  | none => rfl
  | some unit =>
    obtain hnil | ⟨letter, heq, hblank, hdigit, -⟩ := suffix_cases (suffixSeconds?_eq_some_iff.1 hc)
    · cases hnil
    · obtain rfl := List.singleton_inj.1 heq
      simp [hblank, hdigit] at h

theorem splitSuffix_append (h : (suffix, unit) ∈ suffixes)
    (hlast : ∀ c ∈ digits.getLast?, suffixSeconds? c = none) :
    splitSuffix (digits ++ suffix) = (digits, unit) := by
  rcases suffix_cases h with rfl | ⟨letter, rfl, -⟩
  · obtain rfl : unit = 1 := by simpa [suffixes] using h
    rw [List.append_nil, splitSuffix]
    cases hc : digits.getLast? with
    | none => rfl
    | some c => simp [hlast c hc]
  · simp [splitSuffix, suffixSeconds?_eq_some_iff.2 h]

theorem splitSuffix_cases (s : List Char) : ∃ digits suffix unit,
    splitSuffix s = (digits, unit) ∧ s = digits ++ suffix ∧ (suffix, unit) ∈ suffixes := by
  rcases List.eq_nil_or_concat s with rfl | ⟨digits, c, rfl⟩
  · exact ⟨[], [], 1, rfl, rfl, by decide⟩
  · rw [List.concat_eq_append]
    cases hc : suffixSeconds? c with
    | none =>
      exact ⟨digits ++ [c], [], 1, by simp [splitSuffix, hc], by simp, by decide⟩
    | some unit =>
      exact ⟨digits, [c], unit, by simp [splitSuffix, hc], rfl, suffixSeconds?_eq_some_iff.1 hc⟩

/-! ### Numbers -/

theorem isWord_of_writesNatural {limit : Nat} (h : WritesNatural limit number n) :
    IsWord number := by
  obtain ⟨ds, hnumber, hne, hdigits, -, -⟩ := h
  exact Decimal.isWord_of_readDouble? (Double.readDouble?_digits hnumber hne hdigits)

theorem isDigit_getLast? {limit : Nat} (h : WritesNatural limit number n) :
    ∀ c ∈ number.getLast?, c.isDigit = true := by
  obtain ⟨ds, rfl | rfl, hne, hdigits, -, -⟩ := h <;> intro c hc
  · exact hdigits c (List.mem_of_getLast? hc)
  · rw [List.getLast?_cons_of_ne_nil hne] at hc
    exact hdigits c (List.mem_of_getLast? hc)

/-- The last character in front of a suffix is no letter of a unit. -/
theorem suffixSeconds?_getLast? {limit : Nat} {gap : List Char} (h : WritesNatural limit number n)
    (hgap : ∀ c ∈ gap, isBlank c = true) :
    ∀ c ∈ (number ++ gap).getLast?, suffixSeconds? c = none := by
  intro c hc
  rcases List.eq_nil_or_concat gap with rfl | ⟨gap, b, rfl⟩
  · rw [List.append_nil] at hc
    exact suffixSeconds?_eq_none (.inr (isDigit_getLast? h c hc))
  · rw [List.concat_eq_append, ← List.append_assoc, List.getLast?_concat,
      Option.mem_some_iff] at hc
    exact suffixSeconds?_eq_none (.inl (hgap c (by simp [hc])))

/-! ### Reading -/

theorem readDuration_eq_ok_of_splitSuffix {s : List Char} (hs : trim s ≠ [])
    (hsplit : splitSuffix (trim s) = (digits, unit)) {d : Duration} :
    readDuration s = .ok d ↔ ∃ n, Decimal.readNatural? limit64 (trim digits) = some n ∧
      n * unit < limit64 ∧ d = .ofSeconds (n * unit) := by
  rw [readDuration, if_neg (by simpa using hs), hsplit]
  dsimp only
  cases Decimal.readNatural? limit64 (trim digits) with
  | none => simp
  | some n =>
    by_cases hlt : n * unit < limit64
    · simp [hlt, eq_comm]
    · simp [hlt]

theorem writesDuration_of_readDuration {s : List Char} {d : Duration}
    (h : readDuration s = .ok d) : WritesDuration (trim s) d := by
  have hs : trim s ≠ [] := by
    intro hnil
    simp [readDuration, hnil] at h
  obtain ⟨digits, suffix, unit, hsplit, hbody, hsuffix⟩ := splitSuffix_cases (trim s)
  obtain ⟨n, hread, hlt, hd⟩ := (readDuration_eq_ok_of_splitSuffix hs hsplit).1 h
  obtain ⟨before, gap, hdigits, hbefore, hgap⟩ := Text.exists_trim digits
  -- The whole begins with no blank, so nothing stands in front of the number.
  have hnil : before = [] := by
    cases before with
    | nil => rfl
    | cons c r =>
      have hhead := (Text.isTrimmed_trim s).head c (by rw [hbody, hdigits]; rfl)
      rw [hbefore c List.mem_cons_self] at hhead
      cases hhead
  rw [hnil, List.nil_append] at hdigits
  refine ⟨trim digits, gap, suffix, n, unit, ?_, Decimal.readNatural?_eq_some_iff.1 hread, hgap,
    hsuffix, hlt, hd⟩
  rw [hbody, ← hdigits]

theorem readDuration_of_writesDuration {s : List Char} {d : Duration}
    (h : WritesDuration (trim s) d) : readDuration s = .ok d := by
  obtain ⟨number, gap, suffix, n, unit, hbody, hnumber, hgap, hsuffix, hlt, hd⟩ := h
  have hword := isWord_of_writesNatural hnumber
  have hs : trim s ≠ [] := by
    rw [hbody]
    simp [hword.ne_nil]
  have hsplit : splitSuffix (trim s) = (number ++ gap, unit) := by
    rw [hbody]
    exact splitSuffix_append hsuffix (suffixSeconds?_getLast? hnumber hgap)
  have htrim : trim (number ++ gap) = number := by
    have hnone : ∀ c ∈ ([] : List Char), isBlank c = true := by simp
    simpa using Text.trim_between hword.isTrimmed hnone hgap
  refine (readDuration_eq_ok_of_splitSuffix hs hsplit).2 ⟨n, ?_, hlt, hd⟩
  rw [htrim]
  exact Decimal.readNatural?_eq_some_iff.2 hnumber

theorem readDuration_eq_ok_iff {s : List Char} {d : Duration} :
    readDuration s = .ok d ↔ WritesDuration (trim s) d :=
  ⟨writesDuration_of_readDuration, readDuration_of_writesDuration⟩

theorem readDuration?_eq_some_iff {text : String} {d : Duration} :
    readDuration? text = some d ↔ WritesDuration (trim text.toList) d := by
  rw [readDuration?, ← readDuration_eq_ok_iff]
  cases readDuration text.toList <;> simp [Except.toOption]

theorem writesNatural_natDigits {limit : Nat} (h : n < limit) :
    WritesNatural limit (natDigits n) n :=
  Decimal.readNatural?_eq_some_iff.1
    (by simpa [Decimal.natText] using Decimal.readNatural?_natText h)

theorem one_le_of_mem_suffixes (h : (suffix, unit) ∈ suffixes) : 1 ≤ unit := by
  have hall : ∀ p ∈ suffixes, 1 ≤ p.2 := by decide
  exact hall _ h

section Blanks

variable {before gap behind : List Char} (hbefore : ∀ c ∈ before, isBlank c = true)
  (hgap : ∀ c ∈ gap, isBlank c = true) (hbehind : ∀ c ∈ behind, isBlank c = true)
include hbefore hgap hbehind

/-- What is left of a number and its suffix between blanks. -/
theorem trim_written {limit : Nat} (hnumber : WritesNatural limit number n)
    (hsuffix : (suffix, unit) ∈ suffixes) :
    ∃ gap', trim (before ++ number ++ gap ++ suffix ++ behind) = number ++ gap' ++ suffix ∧
      ∀ c ∈ gap', isBlank c = true := by
  have hword := isWord_of_writesNatural hnumber
  rcases suffix_cases hsuffix with rfl | ⟨letter, rfl, hletter, -⟩
  · -- Without a letter the gap is part of the blanks at the end.
    have htrim := Text.trim_between hword.isTrimmed hbefore
      (List.forall_mem_append.2 ⟨hgap, hbehind⟩)
    exact ⟨[], by simpa using htrim, by simp⟩
  · have hwhole : IsTrimmed (number ++ gap ++ [letter]) := by
      refine ⟨fun c hc => hword.isTrimmed.head c ?_, fun c hc => ?_⟩
      · rwa [List.append_assoc, List.head?_append_of_ne_nil _ hword.ne_nil] at hc
      · rw [List.getLast?_concat, Option.mem_some_iff] at hc
        rwa [← hc]
    exact ⟨gap, by simpa using Text.trim_between hwhole hbefore hbehind, hgap⟩

theorem readDuration?_written (hsuffix : (suffix, unit) ∈ suffixes) (hlt : n * unit < limit64) :
    readDuration? (String.ofList (before ++ natDigits n ++ gap ++ suffix ++ behind)) =
      some (.ofSeconds (n * unit)) := by
  have hn : n < limit64 :=
    lt_of_le_of_lt (Nat.le_mul_of_pos_right n (one_le_of_mem_suffixes hsuffix)) hlt
  have hnumber := writesNatural_natDigits hn
  obtain ⟨gap', htrim, hgap'⟩ := trim_written hbefore hgap hbehind hnumber hsuffix
  rw [readDuration?_eq_some_iff, String.toList_ofList, htrim]
  exact ⟨natDigits n, gap', suffix, n, unit, rfl, hnumber, hgap', hsuffix, hlt, rfl⟩

end Blanks

/-- The letter of a unit takes one byte, so the text without its last byte ends in front of it. -/
theorem slice?_trimmed {text : String} {letter : Char}
    (hlast : (trim text.toList).getLast? = some letter)
    (hletter : suffixSeconds? letter = some unit) :
    slice? (trimmed text) 0 ((trimmed text).utf8ByteSize - 1) =
      some (String.ofList (splitSuffix (trim text.toList)).1) := by
  obtain ⟨digits, hbody⟩ := List.getLast?_eq_some_iff.1 hlast
  obtain hnil | ⟨_, heq, -, -, hbyte⟩ := suffix_cases (suffixSeconds?_eq_some_iff.1 hletter)
  · cases hnil
  · obtain rfl := List.singleton_inj.1 heq
    have hsplit : splitSuffix (digits ++ [letter]) = (digits, unit) := by
      simp [splitSuffix, hletter]
    have htext : (trimmed text).toList = [] ++ digits ++ [letter] := by
      rw [trimmed, String.toList_ofList, hbody, List.nil_append]
    have hsize : (trimmed text).utf8ByteSize = (String.ofList digits).utf8ByteSize + 1 := by
      rw [trimmed, hbody, Text.utf8ByteSize_concat, hbyte]
    rw [hsize, Nat.add_sub_cancel, hbody, hsplit]
    exact Text.slice?_of_toList htext

/-- A text is read as a duration exactly if it is a number with an optional plus sign, then any
blanks and an optional letter for a unit, between blanks, and the number and its product with the
unit are below `2 ^ 64`; the duration is that product in seconds. Every number and unit with such a
product are read back however they are written. Where a letter is cut off by its length of one byte,
the cut goes through no character. -/
theorem duration_read_iff_written :
    (∀ (text : String) (d : Duration),
      readDuration? text = some d ↔ WritesDuration (trim text.toList) d) ∧
    (∀ (n unit : Nat) (suffix before gap behind : List Char), (suffix, unit) ∈ suffixes →
      n * unit < limit64 → (∀ c ∈ before ++ gap ++ behind, isBlank c = true) →
      readDuration? (String.ofList (before ++ natDigits n ++ gap ++ suffix ++ behind)) =
        some (.ofSeconds (n * unit))) ∧
    ∀ (text : String) (letter : Char) (unit : Nat),
      (trim text.toList).getLast? = some letter → suffixSeconds? letter = some unit →
      slice? (trimmed text) 0 ((trimmed text).utf8ByteSize - 1) =
        some (String.ofList (splitSuffix (trim text.toList)).1) := by
  refine ⟨fun _ _ => readDuration?_eq_some_iff, ?_, fun _ _ _ => slice?_trimmed⟩
  intro n unit suffix before gap behind hsuffix hlt hblank
  rw [List.forall_mem_append, List.forall_mem_append] at hblank
  obtain ⟨⟨hbefore, hgap⟩, hbehind⟩ := hblank
  exact readDuration?_written hbefore hgap hbehind hsuffix hlt

/-- The most minutes that fit, between blanks of several bytes, and one minute more. A letter is cut
off behind a character of several bytes, too. -/
theorem duration_read_iff_written_bounds :
    307445734561825860 * 60 < limit64 ∧
      readDuration? "\u3000307445734561825860\u2003M\n" =
        some (.ofSeconds 18446744073709551600) ∧
      readDuration? "307445734561825861m" = none ∧
      suffixSeconds? 'm' = some 60 ∧
      slice? (trimmed " é m ") 0 ((trimmed " é m ").utf8ByteSize - 1) = some "é " := by
  obtain ⟨-, hwritten, hcut⟩ := duration_read_iff_written
  refine ⟨by decide, ?_, ?_, rfl, ?_⟩
  · exact hwritten 307445734561825860 60 ['M'] ['\u3000'] ['\u2003'] ['\n'] (by decide) (by decide)
      (List.all_eq_true.1 rfl)
  · decide +kernel
  · exact hcut " é m " 'm' 60 (by decide) rfl

end HostTelemetry
