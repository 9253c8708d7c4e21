import HostTelemetry.Decimal.Shortest

/-!
# Doubles as text

A layout says between which powers of ten a number is written in positional form, whether a whole
number keeps a zero after the point, and which of two equally near decimals is written. Other
numbers are written with an exponent that always has its sign, and without a point if there is a
single digit.
-/

namespace HostTelemetry.Decimal

/-- How doubles are written. A number whose first digit stands for `10 ^ e` is written in
positional form iff `least ≤ e` and `e < bound`. -/
structure Layout where
  least : Int
  bound : Int
  keepPoint : Bool
  tie : Tie

/-- Numbers on the wire: positional form from `0.00001` to below `10 ^ 16`. -/
def Layout.wire : Layout := ⟨-5, 16, true, .toEven⟩

/-- Numbers in messages: always in positional form, whole numbers without a point. -/
def Layout.message : Layout := ⟨-400, 400, false, .up⟩

/-- Positional form of `digits * 10 ^ exponent`. -/
def Layout.positional (l : Layout) (digits : List Char) (exponent : Int) : List Char :=
  let point := digits.length + exponent
  if 0 ≤ exponent then
    digits ++ List.replicate exponent.toNat '0' ++ (if l.keepPoint then ['.', '0'] else [])
  else if point ≤ 0 then
    '0' :: '.' :: List.replicate (-point).toNat '0' ++ digits
  else
    digits.take point.toNat ++ '.' :: digits.drop point.toNat

/-- Form with an exponent. -/
def Layout.scientific (digits : List Char) (first : Int) : List Char :=
  let body := match digits with
    | [] => []
    | [d] => [d]
    | d :: r => d :: '.' :: r
  body ++ 'e' :: (if first < 0 then '-' else '+') :: natDigits first.natAbs

def Layout.numeral (l : Layout) (n : Numeral) : List Char :=
  let digits := natDigits n.significand
  let first := digits.length + n.exponent - 1
  if l.least ≤ first ∧ first < l.bound then l.positional digits n.exponent
  else Layout.scientific digits first

/-- A finite double in a layout. Zero keeps its sign. -/
def Layout.finite (l : Layout) (x : Float) : List Char :=
  let sign := if x.toBits.toNat / 0x8000000000000000 = 1 then ['-'] else []
  if x == 0.0 then sign ++ l.numeral ⟨0, 0⟩
  else sign ++ l.numeral (shortest l.tie x)

/-- Any double in a layout; the ones that are no numbers by their words. -/
def Layout.double (l : Layout) (x : Float) : List Char :=
  if x.isNaN then ['n', 'a', 'n']
  else if x.isInf then (if x < 0.0 then ['-', 'i', 'n', 'f'] else ['i', 'n', 'f'])
  else l.finite x

end HostTelemetry.Decimal
