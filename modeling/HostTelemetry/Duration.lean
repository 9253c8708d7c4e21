import HostTelemetry.Decimal.Layout
import HostTelemetry.Log
import HostTelemetry.Text.Blank

/-!
# Durations and points in time

A duration is a number of seconds and of nanoseconds below one second. `readDuration` reads whole
seconds, written with an optional suffix for seconds, minutes or hours. A point in time is counted
in nanoseconds from the epoch; shipments carry it in milliseconds.
-/

namespace HostTelemetry

structure Duration where
  seconds : Nat
  nanos : Nat
  nanos_lt : nanos < 1000000000 := by decide
deriving DecidableEq, Repr

namespace Duration

def zero : Duration := ⟨0, 0, by decide⟩

def ofSeconds (n : Nat) : Duration := ⟨n, 0, by decide⟩

def ofMillis (n : Nat) : Duration :=
  ⟨n / 1000, n % 1000 * 1000000, by have := Nat.mod_lt n (y := 1000) (by decide); omega⟩

def totalNanos (d : Duration) : Nat := d.seconds * 1000000000 + d.nanos

def isZero (d : Duration) : Bool := d.seconds == 0 && d.nanos == 0

def inSeconds (d : Duration) : Float := Float.ofNat d.seconds + Float.ofNat d.nanos / 1000000000.0

/-- The length in seconds for a message. -/
def secondsText (d : Duration) : String :=
  String.ofList (Decimal.Layout.message.double d.inSeconds)

end Duration

/-! ### Reading -/

inductive DurationError where
  | empty
  | notANumber (text : String)
  | tooLong
deriving DecidableEq, Repr

def suffixSeconds? (c : Char) : Option Nat :=
  if c = 's' ∨ c = 'S' then some 1
  else if c = 'm' ∨ c = 'M' then some 60
  else if c = 'h' ∨ c = 'H' then some 3600
  else none

/-- The digits of a duration and the seconds its suffix stands for. -/
def splitSuffix (s : List Char) : List Char × Nat :=
  match s.getLast? with
  | none => (s, 1)
  | some c =>
    match suffixSeconds? c with
    | some n => (s.dropLast, n)
    | none => (s, 1)

/-- Reads a duration in whole seconds. The number and the product with its suffix are below
`2 ^ 64`; blanks around the number and around the whole are skipped. -/
def readDuration (s : List Char) : Except DurationError Duration :=
  let body := Text.trim s
  if body.isEmpty then .error .empty
  else
    let (digits, unit) := splitSuffix body
    match Decimal.readNatural? Decimal.limit64 (Text.trim digits) with
    | none => .error (.notANumber (String.ofList body))
    | some n =>
      if n * unit < Decimal.limit64 then .ok (.ofSeconds (n * unit)) else .error .tooLong

def readDuration? (s : String) : Option Duration := (readDuration s.toList).toOption

/-- What is said about a text that is no duration: only a bad number is worth a line. -/
def durationEvents (s : String) : List Event :=
  match readDuration s.toList with
  | .error (.notANumber t) =>
    [⟨.error, .text, "Could not parse duration '" ++ t ++ "'"⟩]
  | _ => []

/-! ### Points in time -/

structure Time where
  nanos : Int
deriving DecidableEq, Repr

namespace Time

/-- The point that lies a duration after the epoch, or before it. -/
def ofEpoch (d : Duration) (before : Bool) : Time :=
  ⟨if before then -(d.totalNanos : Int) else d.totalNanos⟩

def ofMillis (ms : Int) : Time := ⟨ms * 1000000⟩

/-- The largest timestamp on the wire. -/
def maxMillis : Int := 0x7FFFFFFFFFFFFFFF

/-- Whole milliseconds since the epoch, 0 for earlier points, and at most `maxMillis`. -/
def epochMillis (t : Time) : Int :=
  if t.nanos < 0 then 0 else min (t.nanos / 1000000) maxMillis

end Time

end HostTelemetry
