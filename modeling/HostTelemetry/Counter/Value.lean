import HostTelemetry.Decimal.Numeral

/-!
# Values of fields

A value is a double that keeps the sign of a NaN. Two NaNs are alike to every computation, but the
members of an instance are told apart by their bits, and there the sign counts. A NaN passes its
sign on through sums and differences; one that arises from numbers has a minus sign.
-/

namespace HostTelemetry

structure Value where
  number : Float
  /-- Whether this is the NaN with a minus sign. -/
  minusNaN : Bool := false
deriving Repr

namespace Value

/-- A double is the value whose NaN has no sign. -/
instance : Coe Float Value := ⟨fun x => ⟨x, false⟩⟩

/-- The bits of the NaN with a minus sign. -/
def minusNaNBits : UInt64 := 0xFFF8000000000000

def bits (v : Value) : UInt64 := if v.minusNaN then minusNaNBits else v.number.toBits

def read? (s : List Char) : Option Value :=
  (Decimal.readDouble? s).map fun x => ⟨x, x.isNaN && s.head? == some '-'⟩

/-- A value in another unit, the factor being a finite number other than 0. -/
def scale (v : Value) (factor : Float) : Value := { v with number := v.number * factor }

/-- The outcome of an operation, a NaN on the left passing its sign on before one on the right. -/
def combine (op : Float → Float → Float) (a b : Value) : Value :=
  let x := op a.number b.number
  if a.number.isNaN then ⟨x, a.minusNaN⟩
  else if b.number.isNaN then ⟨x, b.minusNaN⟩
  else ⟨x, x.isNaN⟩

instance : Add Value := ⟨combine (· + ·)⟩

instance : Sub Value := ⟨combine (· - ·)⟩

/-- The sum from left to right, starting at the zero that changes no summand. -/
def sum (l : List Value) : Value := l.foldl (· + ·) ⟨-0.0, false⟩

theorem number_combine (op : Float → Float → Float) (a b : Value) :
    (combine op a b).number = op a.number b.number := by
  simp only [combine]
  split
  · rfl
  · split <;> rfl

theorem number_add (a b : Value) : (a + b).number = a.number + b.number := number_combine _ a b

theorem number_sub (a b : Value) : (a - b).number = a.number - b.number := number_combine _ a b

end Value

end HostTelemetry
