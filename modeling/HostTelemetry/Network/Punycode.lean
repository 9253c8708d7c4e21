import HostTelemetry.Text.Cut

/-!
# Punycode

A spelling of texts by letters, digits and minus signs (the bootstring of domain labels). The basic
characters come first, then a minus sign, then the places and values of the others: each is written
as its distance from the one before, a number whose digits have thresholds that adapt to the
distances so far. All numbers stay below `2 ^ 32`.
-/

namespace HostTelemetry.Network.Punycode

def base : Nat := 36

/-- The bound that no number in a spelling reaches. -/
def limit : Nat := 0x100000000

/-- The value of a digit: letters from 0, then decimal digits. -/
def digitValue? (c : Char) : Option Nat :=
  if 'a' ≤ c ∧ c ≤ 'z' then some (c.toNat - 'a'.toNat)
  else if 'A' ≤ c ∧ c ≤ 'Z' then some (c.toNat - 'A'.toNat)
  else if c.isDigit then some (c.toNat - '0'.toNat + 26)
  else none

/-- The threshold of the digit at a position, which counts in steps of `base`: a digit below it is
the last one. -/
def threshold (position bias : Nat) : Nat :=
  if position ≤ bias then 1 else if bias + 26 ≤ position then 26 else position - bias

/-- Divides a distance until it is small, adding `base` to the count each time. -/
def shrink (distance count : Nat) : Nat × Nat :=
  if 455 < distance then shrink (distance / 35) (count + base) else (distance, count)
termination_by distance
decreasing_by exact Nat.div_lt_self (by omega) (by omega)

/-- The bias after a distance, in a text that has `length` characters then. -/
def adapt (distance length : Nat) (isFirst : Bool) : Nat :=
  let d := if isFirst then distance / 700 else distance / 2
  let (d, count) := shrink (d + d / length) 0
  count + base * d / (d + 38)

/-- Reads a number, the lowest digit first: `value` is known and the next digit counts `weight`
times. Gives the number and the number of digits that are left. -/
def readNumber? (bias position weight value : Nat) : List Char → Option (Nat × List Char)
  | [] => none
  | c :: r => do
    let digit ← digitValue? c
    let value := value + digit * weight
    let t := threshold position bias
    if limit ≤ value then none
    else if digit < t then some (value, r)
    else if limit ≤ weight * (base - t) then none
    else readNumber? bias (position + base) (weight * (base - t)) value r

theorem length_lt_of_readNumber? {bias position weight value n : Nat} {s r : List Char}
    (h : readNumber? bias position weight value s = some (n, r)) : r.length < s.length := by
  induction s generalizing position weight value with
  | nil => simp [readNumber?] at h
  | cons c s ih =>
    cases hd : digitValue? c with
    | none => simp [readNumber?, hd] at h
    | some digit =>
      simp only [readNumber?, hd, Option.bind_eq_bind, Option.bind_some] at h
      split at h
      · simp at h
      · split at h
        · simp only [Option.some.injEq, Prod.mk.injEq] at h
          simp [h.2]
        · split at h
          · simp at h
          · exact Nat.lt_succ_of_lt (ih h)

/-- Inserts characters into `text`. The last one was `code`, and the next one does not stand before
`place` unless it is greater. -/
def insertAll (bias code place : Nat) (text : List Char) (s : List Char) : Option (List Char) :=
  if s.isEmpty then some text
  else
    match _h : readNumber? bias base 1 place s with
    | none => none
    | some (n, r) =>
      let length := text.length + 1
      let code := code + n / length
      if code.isValidChar then
        insertAll (adapt (n - place) length (place == 0)) code (n % length + 1)
          (text.insertIdx (n % length) (Char.ofNat code)) r
      else none
termination_by s.length
decreasing_by exact length_lt_of_readNumber? _h

/-- The text of a spelling. Its basic characters stand before the last minus sign, unless this
comes first. -/
def decode? (s : List Char) : Option (List Char) :=
  let (basic, rest) := match Text.cutLast '-' s with
    | some (b :: basic, rest) => (b :: basic, rest)
    | _ => ([], s)
  if basic.all fun c => c.toNat < 0x80 then insertAll 72 0x80 0 basic rest else none

end HostTelemetry.Network.Punycode
