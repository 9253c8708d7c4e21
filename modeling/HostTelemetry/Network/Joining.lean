import HostTelemetry.Network.JoiningTable
import HostTelemetry.Text.NormalForm

/-!
# Joiners

Two invisible characters that ask for a joined or a separate form of their neighbours. A label may
hold them only where they make a difference: behind a sign that takes the vowel off a letter, and
the one that separates also between two letters that would join.
-/

namespace HostTelemetry.Network

namespace Joining

/-- The character that keeps letters apart. -/
def nonJoiner : Char := '\u200c'

/-- The character that joins letters. -/
def joiner : Char := '\u200d'

/-- The combining class of the signs that take the vowel off a letter. -/
def vowelKillerClass : Nat := 9

/-- Whether the first character that does not let others join across it is in one of two tables. -/
def meets (a b : Text.CodeTable) (s : List Char) : Bool :=
  let isThere (c : Char) : Bool := a.contains c.toNat || b.contains c.toNat
  (s.find? fun c => isThere c || !transparent.contains c.toNat).any isThere

/-- Whether a joiner may stand between a text, last character first, and another one. -/
def mayStand (c : Char) (before after : List Char) : Bool :=
  match before with
  | [] => false
  | p :: _ =>
    Text.combiningClass p.toNat == vowelKillerClass ||
      (c == nonJoiner && meets joiningLeft joiningBoth before &&
        meets joiningRight joiningBoth after)

/-- Whether every joiner behind `before`, whose last character comes first, is in place. -/
def inPlaceAfter (before : List Char) : List Char → Bool
  | [] => true
  | c :: r =>
    ((c != nonJoiner && c != joiner) || mayStand c before r) && inPlaceAfter (c :: before) r

end Joining

def joinersInPlace (label : List Char) : Bool := Joining.inPlaceAfter [] label

/-- Whether a label starts with a mark, which has no character to stand on there. -/
def startsWithMark (label : List Char) : Bool :=
  label.head?.any fun c => Joining.combiningMarks.contains c.toNat

end HostTelemetry.Network
