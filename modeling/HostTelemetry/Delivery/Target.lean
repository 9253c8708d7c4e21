import HostTelemetry.Url

/-!
# Request targets

The part of a url that a request line names: the path without its dot segments, then the query.
Characters that may not stand there are written as the bytes of their UTF-8 form in base sixteen.
-/

namespace HostTelemetry

def percentByte (b : UInt8) : List Char :=
  let digit (n : Nat) := (Nat.digitChar n).toUpper
  ['%', digit (b.toNat / 16), digit (b.toNat % 16)]

/-- A text in which the characters of a set are written byte by byte. -/
def percentEncoded (reserved : Char → Bool) (s : List Char) : List Char :=
  s.flatMap fun c =>
    if reserved c then (String.singleton c).toUTF8.toList.flatMap percentByte else [c]

/-- Characters outside of the printable ones. -/
def isUnprintable (c : Char) : Bool := c.toNat < 0x20 || 0x7F ≤ c.toNat

def isReservedInPath (c : Char) : Bool :=
  isUnprintable c || " \"<>\x60#?\x7b\x7d".toList.contains c

def isReservedInQuery (c : Char) : Bool := isUnprintable c || " \"<>#'".toList.contains c

/-- The segments between slashes of either kind. -/
def pathSegments : List Char → List (List Char)
  | [] => [[]]
  | c :: r =>
    if c = '/' ∨ c = '\\' then [] :: pathSegments r
    else
      match pathSegments r with
      | [] => [[c]]
      | s :: rest => (c :: s) :: rest

/-- A segment with its encoded dots read as dots. -/
def dotForm (s : List Char) : List Char :=
  match s with
  | '%' :: '2' :: e :: r => if e = 'e' ∨ e = 'E' then '.' :: dotForm r else s
  | c :: r => c :: dotForm r
  | [] => []

/-- Walks over segments, the last kept one at the head: one dot stays where it is, two dots go back
one segment, and either of them at the end leaves an empty segment. -/
def resolveSegments (kept : List (List Char)) : List (List Char) → List (List Char)
  | [] => kept.reverse
  | s :: rest =>
    let last := rest.isEmpty
    if dotForm s = ['.'] then resolveSegments (if last then [] :: kept else kept) rest
    else if dotForm s = ['.', '.'] then
      resolveSegments (if last then [] :: kept.tail else kept.tail) rest
    else resolveSegments (percentEncoded isReservedInPath s :: kept) rest

def targetPath (path : List Char) : List Char :=
  (resolveSegments [] (pathSegments (path.drop 1))).flatMap fun s => '/' :: s

/-- What a url names on its host. -/
def requestTarget (url : String) : String :=
  let text := plainUrl url.toList
  let behindScheme := (text.dropWhile (· ≠ ':')).dropWhile fun c => "://".toList.contains c
  let behindHost := behindScheme.dropWhile fun c => !("/\\?#".toList.contains c)
  let whole := behindHost.takeWhile (· ≠ '#')
  let path := whole.takeWhile (· ≠ '?')
  let query := whole.dropWhile (· ≠ '?')
  String.ofList (targetPath path ++
    (query.take 1 ++ percentEncoded isReservedInQuery (query.drop 1)))

end HostTelemetry
