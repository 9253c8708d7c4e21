import HostTelemetry.Network.DirectionTable

/-!
# Writing direction of labels

In a domain that holds a character written from right to left every label has one direction, which
its first letter gives: all of its characters go with that direction, and it ends in a letter or a
number.
-/

namespace HostTelemetry.Network

inductive Direction where
  | left
  | right
  | arabicNumber
  | europeanNumber
  | neutral
  | mark
  | control
deriving DecidableEq, Repr

namespace Direction

def ofChar (c : Char) : Direction :=
  let n := c.toNat
  if c.isAlpha then .left
  else if rightToLeft.contains n then .right
  else if arabicNumbers.contains n then .arabicNumber
  else if europeanNumbers.contains n then .europeanNumber
  else if neutrals.contains n then .neutral
  else if marks.contains n then .mark
  else if controls.contains n then .control
  else .left

/-- Whether a domain with such a character has labels of one direction each. -/
def turnsDomain : Direction → Bool
  | .right | .arabicNumber => true
  | _ => false

def goesLeft : Direction → Bool
  | .left | .europeanNumber | .neutral | .mark => true
  | _ => false

def goesRight : Direction → Bool
  | .left | .control => false
  | _ => true

end Direction

/-- Whether a label has one direction. Marks at its end count for nothing, and a label from right to
left has digits of one kind. -/
def hasOneDirection (label : List Char) : Bool :=
  match label.map Direction.ofChar with
  | [] => true
  | first :: rest =>
    let rest := (rest.reverse.dropWhile (· == .mark)).reverse
    let last := rest.getLast?.getD first
    match first with
    | .left => rest.all (·.goesLeft) && (last == .left || last == .europeanNumber)
    | .right =>
      rest.all (·.goesRight) &&
        (last == .right || last == .europeanNumber || last == .arabicNumber) &&
        !(rest.contains .europeanNumber && rest.contains .arabicNumber)
    | _ => false

end HostTelemetry.Network
