import HostTelemetry.Text.NormalFormTable

/-!
# Composed form

One spelling for texts that look alike, the Unicode normal form C: every character is taken apart,
marks on one character are put in the order of their combining classes, and what can be composed is
composed again.
-/

namespace HostTelemetry.Text

/-! ### Syllables of Hangul

They are composed of two or three letters by arithmetic. -/

namespace Hangul

def syllables : Nat := 0xAC00
def leads : Nat := 0x1100
def vowels : Nat := 0x1161
/-- One less than the first letter that closes a syllable. -/
def tails : Nat := 0x11A7

def leadCount : Nat := 19
def vowelCount : Nat := 21
/-- One more than the number of letters that close a syllable. -/
def tailCount : Nat := 28

def letters? (n : Nat) : Option (List Nat) :=
  let i := n - syllables
  if syllables ≤ n ∧ i < leadCount * vowelCount * tailCount then
    let pair := [leads + i / (vowelCount * tailCount), vowels + i / tailCount % vowelCount]
    some (if i % tailCount = 0 then pair else pair ++ [tails + i % tailCount])
  else none

/-- The syllable of two letters, or of an open syllable and a letter that closes it. -/
def compose? (a b : Nat) : Option Nat :=
  if leads ≤ a ∧ a < leads + leadCount ∧ vowels ≤ b ∧ b < vowels + vowelCount then
    some (syllables + ((a - leads) * vowelCount + (b - vowels)) * tailCount)
  else if syllables ≤ a ∧ a < syllables + leadCount * vowelCount * tailCount ∧
      (a - syllables) % tailCount = 0 ∧ tails < b ∧ b < tails + tailCount then
    some (a + (b - tails))
  else none

end Hangul

/-! ### Taking apart -/

/-- How often the first part of a composed character is composed itself, at most. -/
def compositionDepth : Nat := 4

/-- The characters that a character is made of, composed at most `depth` times over. -/
def decomposeWithin : Nat → Nat → List Nat
  | 0, n => [n]
  | depth + 1, n =>
    match Hangul.letters? n, expansions.targets? n, composites.targets? n with
    | some l, _, _ => l
    | none, some l, _ => l
    | none, none, some [a, b] => decomposeWithin depth a ++ [b]
    | _, _, _ => [n]

def decompose (n : Nat) : List Nat := decomposeWithin compositionDepth n

/-! ### Order -/

/-- The first character that has a combining class other than 0. -/
def firstMark : Nat := 0x300

def combiningClass (n : Nat) : Nat :=
  if n < firstMark then 0
  else ((combiningClasses.find? (·.2.contains n)).map (·.1)).getD 0

/-- Puts a character behind others, last one first: a mark goes before the marks of higher class. -/
def place (n : Nat) : List Nat → List Nat
  | [] => [n]
  | m :: r =>
    if combiningClass n ≠ 0 ∧ combiningClass n < combiningClass m then m :: place n r
    else n :: m :: r

def ordered (l : List Nat) : List Nat := (l.foldl (fun r n => place n r) []).reverse

/-! ### Composing -/

def compose? (a b : Nat) : Option Nat := (Hangul.compose? a b).or (composites.source? [a, b])

/-- Composes what follows a character `base`: `marks` stand between, last one first, because they
cannot be composed with it. A character is cut off from the base by a mark of its own class or of a
higher one. -/
def composeAfter (base : Nat) (marks : List Nat) : List Nat → List Nat
  | [] => base :: marks.reverse
  | n :: r =>
    let isNext := marks.head?.all fun m => combiningClass m < combiningClass n
    match if isNext then compose? base n else none with
    | some composed => composeAfter composed marks r
    | none =>
      if combiningClass n = 0 then base :: marks.reverse ++ composeAfter n [] r
      else composeAfter base (n :: marks) r

/-- Composes a text whose marks are in order. -/
def composed : List Nat → List Nat
  | [] => []
  | n :: r => if combiningClass n = 0 then composeAfter n [] r else n :: composed r

/-- The composed form of a text. One without marks and letters beyond Latin is composed already. -/
def normalForm (s : List Char) : List Char :=
  if s.all fun c => c.toNat < firstMark then s
  else (composed (ordered (s.flatMap fun c => decompose c.toNat))).map Char.ofNat

theorem normalForm_of_lt {s : List Char} (h : ∀ c ∈ s, c.toNat < firstMark) :
    normalForm s = s := by
  have : (s.all fun c => c.toNat < firstMark) = true := by simpa [List.all_eq_true] using h
  rw [normalForm, if_pos this]

end HostTelemetry.Text
