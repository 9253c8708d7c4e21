import HostTelemetry.Text.Blank
import HostTelemetry.Text.Cut

/-!
# Tables of characters

Tables by code point, written as rows of words. A word is a code point or a range of them in base
sixteen, as in `41` and `41-5A`; a range that ends in `/2` takes every second one. After an equals
sign it has targets between full stops, as in `A8=20.308`: those of the first code point, while the
targets of a later one lie as far behind as itself. Digits in base sixteen are read in either case
and written in lower case.
-/

namespace HostTelemetry.Text

/-! ### Digits in base sixteen -/

def hexDigit? (c : Char) : Option Nat :=
  if c.isDigit then some (c.toNat - '0'.toNat)
  else if 'a' ≤ c ∧ c ≤ 'f' then some (c.toNat - 'a'.toNat + 10)
  else if 'A' ≤ c ∧ c ≤ 'F' then some (c.toNat - 'A'.toNat + 10)
  else none

/-- The number that digits in base sixteen write; other characters count as 0. -/
def ofHexDigits (s : List Char) : Nat := s.foldl (fun n c => 16 * n + (hexDigit? c).getD 0) 0

def hexDigits (n : Nat) : List Char := Nat.toDigits 16 n

theorem hexDigit?_digitChar {n : Nat} (h : n < 16) : hexDigit? (Nat.digitChar n) = some n := by
  have : ∀ m ∈ List.range 16, hexDigit? (Nat.digitChar m) = some m := by decide
  exact this n (List.mem_range.mpr h)

/-! ### Rows -/

/-- The code points from `first` to `last`, `step` apart, and the targets of the first. -/
structure CodeRow where
  first : Nat
  last : Nat
  step : Nat
  targets : List Nat
deriving DecidableEq, Repr

namespace CodeRow

/-- Whether a code point is one of the row. -/
def covers (r : CodeRow) (n : Nat) : Bool :=
  r.first ≤ n && n ≤ r.last && (n - r.first) % r.step == 0

/-- The targets of a code point of the row. -/
def targetsOf (r : CodeRow) (n : Nat) : List Nat := r.targets.map (· + (n - r.first))

/-- The part of a text before a mark and the part behind it, which is empty if there is none. -/
def halves (mark : Char) (s : List Char) : List Char × List Char :=
  (cutFirst mark s).getD (s, [])

def read (word : List Char) : CodeRow :=
  let (source, targets) := halves '=' word
  let (range, step) := halves '/' source
  let (first, last) := halves '-' range
  { first := ofHexDigits first
    last := ofHexDigits (if last.isEmpty then first else last)
    step := if step.isEmpty then 1 else ofHexDigits step
    targets := if targets.isEmpty then [] else (pieces '.' targets).map ofHexDigits }

end CodeRow

structure CodeTable where
  rows : List CodeRow
deriving Repr

namespace CodeTable

def read (lines : List String) : CodeTable :=
  ⟨lines.flatMap fun l => (words l.toList).map CodeRow.read⟩

def contains (t : CodeTable) (n : Nat) : Bool := t.rows.any (·.covers n)

/-- The targets of a code point, if it is in the table. -/
def targets? (t : CodeTable) (n : Nat) : Option (List Nat) :=
  (t.rows.find? (·.covers n)).map (·.targetsOf n)

/-- The first code point with these targets. -/
def source? (t : CodeTable) (targets : List Nat) : Option Nat :=
  (t.rows.find? (·.targets = targets)).map (·.first)

theorem isSome_targets? (t : CodeTable) (n : Nat) : (t.targets? n).isSome = t.contains n := by
  rw [targets?, contains, Option.isSome_map, Bool.eq_iff_iff, List.find?_isSome, List.any_eq_true]

end CodeTable

end HostTelemetry.Text
