import HostTelemetry.Decimal.Natural

/-!
# Numerals and the doubles they name

A numeral is an optional sign, digits with at most one point among or beside them, and an optional
power of ten. `readDouble?` gives the double nearest to it; it also reads the words for infinity
and for "not a number", in either case.
-/

namespace HostTelemetry.Decimal

/-- The number `significand * 10 ^ exponent`. -/
structure Numeral where
  significand : Nat
  exponent : Int
deriving DecidableEq, Repr

/-- A power of ten: an optional sign and at least one digit. -/
def readPower? (s : List Char) : Option Int :=
  let (negative, ds) := match s with
    | '-' :: r => (true, r)
    | '+' :: r => (false, r)
    | r => (false, r)
  if ds.isEmpty || !ds.all Char.isDigit then none
  else some (if negative then -(ofDigits ds : Int) else ofDigits ds)

/-- Reads a numeral without its sign. There is a digit before or after the point, and nothing is
left over. -/
def Numeral.read? (s : List Char) : Option Numeral :=
  let whole := s.takeWhile Char.isDigit
  let rest := s.dropWhile Char.isDigit
  let (fraction, rest) := match rest with
    | '.' :: r => (r.takeWhile Char.isDigit, r.dropWhile Char.isDigit)
    | r => ([], r)
  if whole.isEmpty && fraction.isEmpty then none
  else
    let numeral (power : Int) : Numeral :=
      ⟨ofDigits (whole ++ fraction), power - fraction.length⟩
    match rest with
    | [] => some (numeral 0)
    | c :: r => if c = 'e' ∨ c = 'E' then (readPower? r).map numeral else none

/-- The largest power of ten that matters: beyond it every double has overflowed or vanished. -/
def powerBound : Int := 400

/-- The double nearest to a numeral, infinity if it is too large. -/
def Numeral.toDouble (n : Numeral) : Float :=
  let magnitude : Int := (natDigits n.significand).length + n.exponent
  if n.significand = 0 then 0.0
  else if magnitude > powerBound then 1.0 / 0.0
  else if magnitude < -powerBound then 0.0
  else Float.ofScientific n.significand (n.exponent < 0) n.exponent.natAbs

/-- The double that a word names, read without regard to case. -/
def namedDouble? (s : List Char) : Option Float :=
  let w := s.map Char.toLower
  if w = ['i', 'n', 'f'] ∨ w = ['i', 'n', 'f', 'i', 'n', 'i', 't', 'y'] then some (1.0 / 0.0)
  else if w = ['n', 'a', 'n'] then some (0.0 / 0.0)
  else none

/-- Reads a double: an optional sign, then a numeral or a word. -/
def readDouble? (s : List Char) : Option Float :=
  let (negative, body) := match s with
    | '-' :: r => (true, r)
    | '+' :: r => (false, r)
    | r => (false, r)
  let value := match Numeral.read? body with
    | some n => some n.toDouble
    | none => namedDouble? body
  value.map fun x => if negative then -x else x

end HostTelemetry.Decimal
