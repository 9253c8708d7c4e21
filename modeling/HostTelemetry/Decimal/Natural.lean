/-!
# Whole numbers as text

Reading a whole number below a limit: an optional plus sign, then decimal digits and nothing
else. Writing uses no leading zeros, and a minus sign for a negative number.
-/

namespace HostTelemetry.Decimal

/-- The limits of the two unsigned word sizes in use. -/
def limit32 : Nat := 0x100000000

def limit64 : Nat := 0x10000000000000000

def digitValue (c : Char) : Nat := c.toNat - '0'.toNat

def ofDigits (ds : List Char) : Nat := ds.foldl (fun n c => 10 * n + digitValue c) 0

/-- Reads a number below `limit`. A sign other than one plus, an empty text, a character that is
no decimal digit and a number that is too large are refused. -/
def readNatural? (limit : Nat) (s : List Char) : Option Nat :=
  let ds := match s with
    | '+' :: r => r
    | r => r
  if ds.isEmpty || !ds.all Char.isDigit then none
  else if ofDigits ds < limit then some (ofDigits ds) else none

def natDigits (n : Nat) : List Char := Nat.toDigits 10 n

def intDigits : Int → List Char
  | .ofNat n => natDigits n
  | .negSucc n => '-' :: natDigits (n + 1)

def natText (n : Nat) : String := String.ofList (natDigits n)

def intText (i : Int) : String := String.ofList (intDigits i)

end HostTelemetry.Decimal
