import HostTelemetry.Decimal.Numeral

/-!
# The shortest decimal that reads back

A finite double stands for every real number that rounds to it. Among the numerals in that
interval `shortest` takes one on the coarsest grid of powers of ten that has a point there, and of
those the point nearest to the double; a `Tie` decides between two that are equally near. All
comparisons are between whole numbers.
-/

namespace HostTelemetry.Decimal

/-- A positive double as `mantissa * 2 ^ power`; `thin` says that the double below it lies at half
the distance of the double above it. -/
structure Binary where
  mantissa : Nat
  power : Int
  thin : Bool
deriving DecidableEq, Repr

/-- The bit of the mantissa that is not written. -/
def implicitBit : Nat := 0x10000000000000

def Binary.ofDouble (x : Float) : Binary :=
  let bits : Nat := x.toBits.toNat
  let fraction : Nat := bits % implicitBit
  let field : Nat := bits / implicitBit % 0x800
  if field = 0 then ⟨fraction, -1074, false⟩
  else ⟨implicitBit + fraction, (field : Int) - 1075, fraction == 0 && decide (1 < field)⟩

/-- The interval that rounds to a double, and the double, in quarters of its unit in the last
place; the ends belong to it iff the mantissa is even. -/
structure Interval where
  low : Nat
  middle : Nat
  high : Nat
  closed : Bool

def Binary.interval (b : Binary) : Interval where
  low := 4 * b.mantissa - (if b.thin then 1 else 2)
  middle := 4 * b.mantissa
  high := 4 * b.mantissa + 2
  closed := b.mantissa % 2 == 0

/-- Which of two neighbouring multiples is taken that are equally near. -/
inductive Tie where
  | toEven
  | up
deriving DecidableEq, Repr

/-- Whether the multiple after `below` is taken, given the distances of the two. -/
def Tie.takesNext (t : Tie) (below distance distanceNext : Nat) : Bool :=
  match t with
  | .toEven => distanceNext < distance || (distanceNext == distance && below % 2 == 1)
  | .up => distanceNext ≤ distance

/-- The nearest multiple of `unit` in the interval, the bounds being multiplied by `scale`. -/
def Interval.multiple? (i : Interval) (tie : Tie) (scale unit : Nat) : Option Nat :=
  let low := i.low * scale
  let middle := i.middle * scale
  let high := i.high * scale
  let below := middle / unit
  let above := below + 1
  let lowFits := if i.closed then low ≤ below * unit else low < below * unit
  let highFits := if i.closed then above * unit ≤ high else above * unit < high
  if lowFits then
    if highFits ∧ tie.takesNext below (middle - below * unit) (above * unit - middle) then
      some above
    else some below
  else if highFits then some above
  else none

/-- The first grid, from `10 ^ exponent` downwards, with a point in the interval. -/
def Interval.search (i : Interval) (tie : Tie) (power : Int) : Nat → Int → Numeral
  | 0, exponent => ⟨0, exponent⟩
  | fuel + 1, exponent =>
    let quarter := power - 2
    let scale := 2 ^ quarter.toNat * 10 ^ (-exponent).toNat
    let unit := 2 ^ (-quarter).toNat * 10 ^ exponent.toNat
    match i.multiple? tie scale unit with
    | some d => ⟨d, exponent⟩
    | none => i.search tie power fuel (exponent - 1)

/-- A power of ten above every number in the interval of a double. -/
def Binary.ceiling (b : Binary) : Int :=
  (b.power + Nat.log2 b.mantissa + 2) * 30103 / 100000 + 1

/-- The grids that are tried: seventeen digits always suffice, and the ceiling lies at most three
places too high. -/
def gridCount : Nat := 24

/-- The shortest decimal that reads back as a positive finite double. -/
def shortest (tie : Tie) (x : Float) : Numeral :=
  let b := Binary.ofDouble x
  b.interval.search tie b.power gridCount b.ceiling

end HostTelemetry.Decimal
