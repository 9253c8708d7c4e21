import HostTelemetry.Text.CaseTable

/-!
# Lower case

Full Unicode lower-casing: each character is replaced by its lower-case form, which for the capital
I with a dot has two characters, and a capital sigma by its final form where a word ends.
-/

namespace HostTelemetry.Text

def lowerForm (c : Char) : List Char :=
  if c.toNat < 0x80 then [c.toLower]
  else
    match lowerForms.targets? c.toNat with
    | some l => l.map Char.ofNat
    | none => [c]

theorem lowerForm_of_lt {c : Char} (h : c.toNat < 0x80) : lowerForm c = [c.toLower] := if_pos h

/-- Whether the first character that does not carry case by itself is cased. -/
def startsCased (s : List Char) : Bool :=
  match s.dropWhile fun c => caseIgnorable.contains c.toNat with
  | [] => false
  | c :: _ => cased.contains c.toNat

/-- Lower case of a text whose part before it, last character first, is `before`. -/
def lowerAfter (before : List Char) : List Char → List Char
  | [] => []
  | c :: r =>
    let here :=
      if c = 'Σ' then
        if startsCased before && !startsCased r then ['ς'] else ['σ']
      else lowerForm c
    here ++ lowerAfter (c :: before) r

def lower (s : List Char) : List Char := lowerAfter [] s

def lowered (s : String) : String := String.ofList (lower s.toList)

end HostTelemetry.Text
