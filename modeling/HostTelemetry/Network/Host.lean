import HostTelemetry.Decimal.Natural
import HostTelemetry.Network.Address
import HostTelemetry.Network.Domain
import HostTelemetry.Url

/-!
# Hosts in urls

Which host a url names: whether there is one, and whether it and what stands around it are well
formed. On the web and in files a host is a domain or a numeric address; elsewhere it is any text
without a few characters.
-/

namespace HostTelemetry.Network

/-! ### Hosts -/

/-- The bytes of a text, those behind a percent sign given by two digits in base sixteen. -/
def percentDecoded : List UInt8 → List UInt8
  | 0x25 :: a :: b :: r =>
    match Text.hexDigit? (Char.ofNat a.toNat), Text.hexDigit? (Char.ofNat b.toNat) with
    | some m, some n => UInt8.ofNat (16 * m + n) :: percentDecoded r
    | _, _ => 0x25 :: percentDecoded (a :: b :: r)
  | a :: r => a :: percentDecoded r
  | [] => []

/-- The text that a host is after its percent signs are read. -/
def hostText? (s : List Char) : Option (List Char) :=
  let bytes := percentDecoded (String.ofList s).toUTF8.toList
  (String.fromUTF8? ⟨bytes.toArray⟩).map String.toList

/-- Whether a text is an address of eight groups between brackets. -/
def isBracketed (s : List Char) : Bool :=
  s.head? == some '[' && s.getLast? == some ']' && isGroupAddress (s.drop 1).dropLast

def isWebHost (s : List Char) : Bool :=
  if s.head? == some '[' then isBracketed s
  else
    match (hostText? s).bind labels? with
    | some labels => labels != [[]] && (!endsInNumber labels || isByteAddress labels)
    | none => false

def isOtherHost (s : List Char) : Bool :=
  if s.head? == some '[' then isBracketed s
  else !s.any fun c => "\x00\t\n\r #/:<>?@[\\]^|".toList.contains c

/-! ### Authorities -/

inductive HostFinding where
  | named
  | missing
  | malformed
deriving DecidableEq, Repr

/-- The text up to the first colon outside of brackets, and the text from there. -/
def splitHost (inBrackets : Bool) : List Char → List Char × List Char
  | [] => ([], [])
  | c :: r =>
    if c = ':' ∧ !inBrackets then ([], c :: r)
    else
      let (host, rest) := splitHost (c = '[' || (inBrackets && c != ']')) r
      (c :: host, rest)

/-- Whether a text is empty or a colon and a number below `2 ^ 16`, which may be left out. -/
def isNumberPart : List Char → Bool
  | [] => true
  | c :: r =>
    let digits := r.takeWhile Char.isDigit
    let rest := r.dropWhile Char.isDigit
    c == ':' && Decimal.ofDigits digits < 0x10000 && (rest.isEmpty || rest.head? == some '\\')

/-- The host behind the two slashes of a url. A user may stand before it and a number after it. -/
def authorityHost (ofWeb : Bool) (s : List Char) : HostFinding :=
  let isInside (c : Char) : Bool := !("/?#".toList.contains c || (ofWeb && c == '\\'))
  let isAlone := s.all isInside
  let authority := s.takeWhile isInside
  let (user, place) := match Text.cutLast '@' authority with
    | some (user, place) => (some user, place)
    | none => (none, authority)
  let (host, number) := splitHost false place
  if host.isEmpty then
    let isMissing := !ofWeb && number.isEmpty &&
      (user = none || (user = some [] && isAlone) || user = some [':'])
    if isMissing then .missing else .malformed
  else if (if ofWeb then isWebHost host else isOtherHost host) && isNumberPart number then .named
  else .malformed

/-! ### Schemes -/

/-- The scheme of a text, in lower case, and the rest behind its colon. -/
def scheme? (s : List Char) : Option (List Char × List Char) :=
  match Text.cutFirst ':' s with
  | some (c :: name, rest) =>
    if c.isAlpha && name.all fun c => c.isAlphanum || "+-.".toList.contains c then
      some ((c :: name).map Char.toLower, rest)
    else none
  | _ => none

/-- The schemes whose urls always name a host of the web. -/
def webSchemes : List String := ["http", "https", "ws", "wss", "ftp"]

def isSlash (c : Char) : Bool := c == '/' || c == '\\'

def isDrive : List Char → Bool
  | [c, mark] => c.isAlpha && (mark == ':' || mark == '|')
  | _ => false

/-- The host of a file, which is missing if it is this one. -/
def fileHost (rest : List Char) : HostFinding :=
  match rest with
  | a :: b :: s =>
    let host := s.takeWhile fun c => !("/\\?#".toList.contains c)
    if !(isSlash a && isSlash b) || host.isEmpty || isDrive host then .missing
    else if !isWebHost host then .malformed
    else if (hostText? host).bind labels? = some ["localhost".toList] then .missing
    else .named
  | _ => .missing

/-- What a url says about its host. One without a scheme names none. -/
def hostFinding (url : List Char) : HostFinding :=
  match scheme? (plainUrl url) with
  | none => .missing
  | some (scheme, rest) =>
    if webSchemes.contains (String.ofList scheme) then
      authorityHost true (rest.dropWhile isSlash)
    else if scheme = "file".toList then fileHost rest
    else
      match rest with
      | '/' :: '/' :: rest => authorityHost false rest
      | _ => .missing

end HostTelemetry.Network
