import HostTelemetry.Network.Direction
import HostTelemetry.Network.Joining
import HostTelemetry.Network.MappingTable
import HostTelemetry.Network.Punycode

/-!
# Domains

A domain is a text of labels between full stops. Before it is looked up its characters are replaced
by plain ones, capital letters by small ones for instance, and it is put into composed form. A label
that starts with `xn--` is a spelling of another one, which must need no such preparation.
-/

namespace HostTelemetry.Network

/-- Characters that no domain holds. -/
def isForbidden (c : Char) : Bool :=
  c.toNat ≤ 0x20 || c.toNat == 0x7F || "%#/:<>?@[\\]^|".toList.contains c

/-- What replaces a character; nothing if it may not stand in a domain. -/
def prepared? (c : Char) : Option (List Char) :=
  if c.toNat < 0x80 then some [c.toLower]
  else
    match mapping.targets? c.toNat with
    | some l => some (l.map Char.ofNat)
    | none => if admitted.contains c.toNat then some [c] else none

def isPrepared (s : List Char) : Bool :=
  (s.all fun c => prepared? c == some [c]) && Text.normalForm s == s

/-! ### Labels -/

/-- The start of a label that spells another one. -/
def spellingMark : List Char := "xn--".toList

def maxSpelling : Nat := 2000

/-- The longest label with characters beyond ASCII. -/
def maxLabel : Nat := 1000

/-- The label that is spelled behind the spelling mark. -/
def spelled? (s : List Char) : Option (List Char) :=
  if s.isEmpty || s.getLast? == some '-' || maxSpelling < s.length ||
      !s.all fun c => c.toNat < 0x80 then none
  else (Punycode.decode? s).filter isPrepared

def isLabel (label : List Char) : Bool :=
  (label.all fun c => c.toNat < 0x80) ||
    (!startsWithMark label && joinersInPlace label && label.length ≤ maxLabel)

/-- The label that a prepared text stands for. -/
def label? (s : List Char) : Option (List Char) :=
  (match spellingMark.isPrefixOf? s with
    | some spelling => spelled? spelling
    | none => some s).filter isLabel

/-! ### Whole domains -/

/-- The labels that a text names. -/
def labels? (s : List Char) : Option (List (List Char)) := do
  let text := Text.normalForm (← s.mapM prepared?).flatten
  if text.any isForbidden then none
  else
    let labels ← (Text.pieces '.' text).mapM label?
    let turns := labels.any (·.any fun c => (Direction.ofChar c).turnsDomain)
    if turns && !labels.all hasOneDirection then none else some labels

end HostTelemetry.Network
