import HostTelemetry.Log
import HostTelemetry.Text.Blank

/-!
# Urls of the receiver

A base, with `https://` in front unless it names one of the two web schemes, joined to a path by
exactly one slash.
-/

namespace HostTelemetry

def httpScheme : List Char := "http://".toList

def httpsScheme : List Char := "https://".toList

/-- Whether a text starts with one of the two web schemes, in lower case. -/
def hasWebScheme (s : List Char) : Bool :=
  httpScheme.isPrefixOf s || httpsScheme.isPrefixOf s

/-- The text without the slashes at its end. -/
def withoutLastSlashes : List Char → List Char
  | [] => []
  | c :: r =>
    match withoutLastSlashes r with
    | [] => if c = '/' then [] else [c]
    | d :: t => c :: d :: t

/-- Joins a path onto a base; a blank base has no url. -/
def completeUrl? (base path : List Char) : Option (List Char) :=
  let base := Text.trim base
  if base.isEmpty then none
  else
    let base := if hasWebScheme base then base else httpsScheme ++ base
    some (withoutLastSlashes base ++ '/' :: path.dropWhile (· = '/'))

def completeUrlText? (base path : String) : Option String :=
  (completeUrl? base.toList path.toList).map String.ofList

/-- A url as others read it: without the controls and spaces around it, and without the tabs and
line breaks in it. -/
def plainUrl (s : List Char) : List Char :=
  let isOuter (c : Char) : Bool := c.toNat ≤ 0x20
  let inner := ((s.dropWhile isOuter).reverse.dropWhile isOuter).reverse
  inner.filter fun c => !(c == '\t' || c == '\n' || c == '\r')

/-- What is said about a base: a blank one is worth a line. -/
def urlEvents (base : String) : List Event :=
  if Text.isBlankText base then [⟨.error, .text, "InsightFinder url is empty"⟩] else []

end HostTelemetry
