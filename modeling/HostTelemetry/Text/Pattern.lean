import HostTelemetry.Text.Letter

/-!
# Search patterns

Which texts are regular expressions: groups are closed, what is repeated is there, sets of
characters are closed and their ranges ascend, and an escaped character is one that may be escaped.
Characters can be named one by one but not by a property, so classes of letters or digits, word
boundaries and a disregard of case are refused.
-/

namespace HostTelemetry.Text.Pattern

/-- A character given by a fixed count of digits in base sixteen, and what follows it. -/
def numbered? (count : Nat) (s : List Char) : Option (Nat × List Char) :=
  let digits := s.take count
  let n := ofHexDigits digits
  if digits.length = count ∧ (digits.all fun c => (hexDigit? c).isSome) ∧ n.isValidChar then
    some (n, s.drop count)
  else none

/-- The letters that stand for a control when escaped. -/
def controls : List (Char × Nat) := [('a', 7), ('f', 12), ('t', 9), ('n', 10), ('r', 13), ('v', 11)]

/-- The character that a backslash and what follows it give. -/
def escaped? : List Char → Option (Nat × List Char)
  | [] => none
  | 'x' :: r => numbered? 2 r
  | 'u' :: r => numbered? 4 r
  | 'U' :: r => numbered? 8 r
  | c :: r =>
    match controls.lookup c with
    | some n => some (n, r)
    | none =>
      if c.isAlphanum || c == '<' || c == '>' || 127 < c.toNat then none else some (c.toNat, r)

/-! ### Sets -/

/-- One character of a set, and what follows it. -/
def member? : List Char → Option (Nat × List Char)
  | [] => none
  | '\\' :: r => escaped? r
  | c :: r => some (c.toNat, r)

/-- What follows one character or one range of a set. A minus sign before the end of the set or
before another one makes no range. -/
def afterMember? (s : List Char) : Option (List Char) :=
  match member? s with
  | none => none
  | some (low, r) =>
    match r with
    | [] => none
    | '-' :: ']' :: _ | '-' :: '-' :: _ => some r
    | '-' :: high =>
      match member? high with
      | some (n, rest) => if low ≤ n then some rest else none
      | none => none
    | _ => some r

/-- What follows the opening bracket of a set: a negation, minus signs, and a bracket that closes
nothing because it comes first. -/
def setBody (s : List Char) : List Char :=
  let s := match s with
    | '^' :: r => r
    | r => r
  match s with
  | ']' :: r => r
  | r => r.dropWhile (· == '-')

/-- What follows a set, from inside of it; `depth` sets around it are open. -/
def afterSet? : Nat → Nat → List Char → Option (List Char)
  | 0, _, _ | _, _, [] => none
  | fuel + 1, depth, '[' :: r => afterSet? fuel (depth + 1) (setBody r)
  | fuel + 1, depth, ']' :: r => if depth = 0 then some r else afterSet? fuel (depth - 1) r
  | fuel + 1, depth, '&' :: '&' :: r => afterSet? fuel depth r
  | fuel + 1, depth, '-' :: '-' :: r => afterSet? fuel depth r
  | fuel + 1, depth, '~' :: '~' :: r => afterSet? fuel depth r
  | fuel + 1, depth, s => (afterMember? s).bind (afterSet? fuel depth)

/-! ### Groups -/

def isGroupName : List Char → Bool
  | [] => false
  | c :: r =>
    (c == '_' || isAlphabetic c) &&
      r.all fun c => "_.[]".toList.contains c || isAlphanumeric c

/-- The switches of a group, other than the one that disregards case. -/
def switches : List Char := "msUuxR".toList

/-- Whether a text sets switches: each at most once, and one minus sign at most, which is not the
last character. -/
def isSwitchList (s : List Char) : Bool :=
  (s.all fun c => c == '-' || switches.contains c) && s.eraseDups.length == s.length &&
    s.getLast? != some '-'

/-- What follows the opening of a group, and whether a group is open then. -/
def afterOpening? : List Char → Option (Bool × List Char)
  | '?' :: '<' :: r | '?' :: 'P' :: '<' :: r =>
    if isGroupName (r.takeWhile (· ≠ '>')) then
      match r.dropWhile (· ≠ '>') with
      | _ :: rest => some (true, rest)
      | [] => none
    else none
  | '?' :: r =>
    let list := r.takeWhile fun c => c != ':' && c != ')'
    if !isSwitchList list then none
    else
      match r.dropWhile fun c => c != ':' && c != ')' with
      | ':' :: rest => some (true, rest)
      | ')' :: rest => if list.isEmpty then none else some (false, rest)
      | _ => none
  | r => some (true, r)

/-! ### Whole patterns -/

/-- Whether the rest of a pattern is one, with `depth` groups open; `repeatable` tells whether there
is something before it that can be repeated. -/
def isRest : Nat → Nat → Bool → List Char → Bool
  | _, depth, _, [] => depth == 0
  | 0, _, _, _ => false
  | fuel + 1, depth, repeatable, c :: r =>
    match c with
    | '(' =>
      match afterOpening? r with
      | some (isGroup, rest) => isRest fuel (if isGroup then depth + 1 else depth) false rest
      | none => false
    | ')' => depth != 0 && isRest fuel (depth - 1) true r
    | '|' => isRest fuel depth false r
    | '[' =>
      match afterSet? (r.length + 1) 0 (setBody r) with
      | some rest => isRest fuel depth true rest
      | none => false
    | '\\' =>
      match r with
      | 'A' :: rest | 'z' :: rest => isRest fuel depth true rest
      | _ =>
        match escaped? r with
        | some (_, rest) => isRest fuel depth true rest
        | none => false
    | '?' | '*' | '+' => repeatable && isRest fuel depth true r
    | '\x7b' => false
    | _ => isRest fuel depth true r

end Pattern

/-- Whether a text without counted repetitions is a regular expression. -/
def isPattern (s : List Char) : Bool := Pattern.isRest s.length 0 false s

end HostTelemetry.Text
