import HostTelemetry.Decimal.Natural
import HostTelemetry.Text.CodeTable

/-!
# Numeric addresses

An address of four bytes is written as up to four numbers between full stops, in base ten, eight or
sixteen, of which the last one fills all bytes that are left. An address of eight groups is written
between colons in base sixteen; one run of groups that are 0 may be left out, and the last two may
be written as four bytes.
-/

namespace HostTelemetry.Network

/-! ### Four bytes -/

def isOctal (c : Char) : Bool := '0' ≤ c && c ≤ '7'

def ofOctal (s : List Char) : Nat := s.foldl (fun n c => 8 * n + Decimal.digitValue c) 0

/-- The number in an address: behind `0x` in base sixteen, behind another `0` in base eight. -/
def addressNumber? (s : List Char) : Option Nat :=
  match s with
  | [] => none
  | '0' :: 'x' :: r | '0' :: 'X' :: r =>
    if r.all fun c => (Text.hexDigit? c).isSome then some (Text.ofHexDigits r) else none
  | '0' :: r => if r.all isOctal then some (ofOctal r) else none
  | s => if s.all Char.isDigit then some (Decimal.ofDigits s) else none

/-- The labels without an empty one at the end. -/
def withoutRoot (labels : List (List Char)) : List (List Char) :=
  match labels.reverse with
  | [] :: rest => rest.reverse
  | _ => labels

/-- Whether a domain can only be an address, because its last label is a number. -/
def endsInNumber (labels : List (List Char)) : Bool :=
  match (withoutRoot labels).getLast? with
  | some last => !last.isEmpty && (last.all Char.isDigit || (addressNumber? last).isSome)
  | none => false

/-- Whether labels are an address of four bytes. -/
def isByteAddress (labels : List (List Char)) : Bool :=
  match (withoutRoot labels).mapM addressNumber? with
  | none => false
  | some numbers =>
    let leading := numbers.dropLast
    numbers.length ≤ 4 && leading.all (· < 256) &&
      numbers.getLast?.any fun last => last < Nat.pow 256 (4 - leading.length)

/-! ### Eight groups -/

/-- Whether a text is a group: up to four digits in base sixteen. -/
def isGroup (s : List Char) : Bool :=
  !s.isEmpty && s.length ≤ 4 && s.all fun c => (Text.hexDigit? c).isSome

def isByte (s : List Char) : Bool :=
  !s.isEmpty && s.all Char.isDigit && Decimal.ofDigits s < 256 &&
    (s.length == 1 || s.head? != some '0')

def isFourBytes (s : List Char) : Bool :=
  let bytes := Text.pieces '.' s
  bytes.length == 4 && bytes.all isByte

/-- The groups between colons, of which there may be none. -/
def groupTexts (s : List Char) : List (List Char) :=
  if s.isEmpty then [] else Text.pieces ':' s

/-- The number of groups that texts write; only the last one may be four bytes, and only where
`mayEnd` holds. -/
def groupCount? (mayEnd : Bool) : List (List Char) → Option Nat
  | [] => some 0
  | [s] => if isGroup s then some 1 else if mayEnd && isFourBytes s then some 2 else none
  | s :: rest => if isGroup s then (groupCount? mayEnd rest).map (· + 1) else none

/-- The parts before and after the first pair of colons. -/
def cutAtGap : List Char → Option (List Char × List Char)
  | ':' :: ':' :: r => some ([], r)
  | c :: r => (cutAtGap r).map fun p => (c :: p.1, p.2)
  | [] => none

/-- Whether a text is an address of eight groups. A gap stands for at least one of them. -/
def isGroupAddress (s : List Char) : Bool :=
  match cutAtGap s with
  | none => groupCount? true (groupTexts s) == some 8
  | some (before, after) =>
    match groupCount? false (groupTexts before), groupCount? true (groupTexts after) with
    | some m, some n => m + n < 8
    | _, _ => false

end HostTelemetry.Network
