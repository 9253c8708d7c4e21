import HostTelemetry.Decimal.Numeral
import HostTelemetry.Log
import HostTelemetry.Text.Blank
import HostTelemetry.Text.Cut
import HostTelemetry.Text.Pattern

/-!
# Log filters

Which lines of the log are shown. A filter is a list of directives between commas, in one of the
forms

* `verbosity`, for every speaker;
* `scope` or `scope=verbosity`, for the speakers whose path starts with the scope;
* `scope[span]=verbosity` or `scope[span{field}]=verbosity`, for lines inside a named span
  and for lines that carry a field, where the scope, the span and the verbosity may be left out.

A verbosity that is left out shows everything. Lines are said outside of all spans, and the one
field they carry is `message`. The most specific directive that concerns a line decides.
-/

namespace HostTelemetry

/-! ### Verbosities -/

def verbosityWords : List (String × Nat) :=
  [("off", 0), ("error", 1), ("warn", 2), ("info", 3), ("debug", 4), ("trace", 5)]

def fullVerbosity : Nat := 5

/-- The verbosity that a number up to 5 or a word names, read without regard to case. -/
def verbosity? (s : List Char) : Option Nat :=
  ((Decimal.readNatural? Decimal.limit64 s).filter (· ≤ fullVerbosity)).or
    (verbosityWords.lookup (String.ofList (s.map Char.toLower)))

/-! ### Cutting by bytes -/

def byteCount (s : List Char) : Nat := (String.ofList s).utf8ByteSize

def dropBytes (n : Nat) : List Char → List Char
  | [] => []
  | c :: r => if n = 0 then c :: r else dropBytes (n - c.utf8Size) r

def takeBytes (n : Nat) : List Char → List Char
  | [] => []
  | c :: r => if n = 0 then [] else c :: takeBytes (n - c.utf8Size) r

/-! ### Directives -/

/-- A field that a line must carry, perhaps with a value of some form. -/
structure FieldTest where
  name : List Char
  hasValue : Bool
deriving DecidableEq, Repr

namespace FieldTest

/-- Reads `name` or `name=value`, the value being a number or a search pattern. -/
def read? (s : List Char) : Option FieldTest :=
  match Text.pieces '=' s with
  | name :: value :: _ =>
    if (Decimal.readDouble? value).isSome || Text.isPattern value then some ⟨name, true⟩ else none
  | _ => if s.isEmpty then none else some ⟨s, false⟩

/-- Whether the lines of the agent pass. A value is asked for of spans only. -/
def passes (t : FieldTest) : Bool := t.name == "message".toList && !t.hasValue

end FieldTest

/-- Shows lines up to a verbosity, of every speaker whose path starts with `scope`, in a span and
with a field if there are any. -/
structure Directive where
  scope : List Char := []
  span : Option (List Char) := none
  field : Option FieldTest := none
  verbosity : Nat := fullVerbosity
deriving DecidableEq, Repr

namespace Directive

def mayStartWith (c : Char) : Bool := "-:_".toList.contains c || Text.isAlphanumeric c

/-- The parts of a directive are found in the text without the blanks around it, by their positions
in bytes, and are then cut out of the whole text at these positions. This is the part `part` that
is found behind `before`. -/
def cut (whole before part : List Char) : List Char :=
  takeBytes (byteCount part) (dropBytes (byteCount before) whole)

/-- Completes a directive by its verbosity, the end of the text behind an equals sign. -/
def withVerbosity? (d : Directive) (whole before : List Char) : List Char → Option Directive
  | [] => some d
  | '=' :: _ =>
    match dropBytes (byteCount before + 1) whole with
    | [] => some d
    | v => (verbosity? v).map fun n => { d with verbosity := n }
  | _ => none

/-- Reads what follows an opening bracket: a span, a field between braces, a closing bracket. -/
def withSpan? (d : Directive) (whole before rest : List Char) : Option Directive :=
  let isInSpan (c : Char) : Bool := c != ']' && c != '\x7b'
  let name := rest.takeWhile isInSpan
  let span := cut whole before name
  let before := before ++ name
  match rest.dropWhile isInSpan with
  | ']' :: rest => { d with span := some span }.withVerbosity? whole (before ++ [']']) rest
  | '\x7b' :: rest =>
    let isInField (c : Char) : Bool := c != '\x7d'
    let field := rest.takeWhile isInField
    let before := before ++ ['\x7b']
    match rest.dropWhile isInField with
    | '\x7d' :: ']' :: rest => do
      let test ← FieldTest.read? (cut whole before field)
      let span := if span.isEmpty then none else some span
      { d with span, field := some test }.withVerbosity? whole
        (before ++ field ++ ['\x7d', ']']) rest
    | _ => none
  | _ => none

def read? (whole : List Char) : Option Directive :=
  let s := Text.trim whole
  let isInScope (c : Char) : Bool := c != '=' && c != '['
  let scope := s.takeWhile isInScope
  let d : Directive := { scope := cut whole [] scope }
  match s with
  | [] => none
  | '[' :: rest => withSpan? {} whole ['['] rest
  | c :: _ =>
    if !mayStartWith c then none
    else
      match s.dropWhile isInScope with
      | [] => some ((verbosity? whole).elim { scope := whole } fun v => { verbosity := v })
      | '[' :: rest => d.withSpan? whole (scope ++ ['[']) rest
      | rest => d.withVerbosity? whole scope rest

/-- Whether a directive concerns the lines of a speaker. -/
def concerns (d : Directive) (speaker : Speaker) : Bool :=
  d.span.isNone && d.field.all (·.passes) && d.scope.isPrefixOf speaker.path.toList

/-- Whether a directive gives way to a later one: a longer scope is more specific, and of two
equal scopes one with a field. -/
def givesWayTo (d later : Directive) : Bool :=
  d.scope.length < later.scope.length ||
    (d.scope.length == later.scope.length && (d.field.isNone || later.field.isSome))

end Directive

/-! ### Filters -/

abbrev LogFilter := List Directive

namespace LogFilter

/-- Reads directives separated by commas, empty ones skipped. -/
def read? (s : List Char) : Option LogFilter :=
  ((Text.pieces ',' s).filter (!·.isEmpty)).mapM Directive.read?

/-- The most specific directive that concerns a speaker, the later one of two equals. -/
def decisive? (f : LogFilter) (speaker : Speaker) : Option Directive :=
  (f.filter (·.concerns speaker)).foldl
    (fun found d => if found.all (·.givesWayTo d) then some d else found) none

/-- The verbosity for a speaker, and none at all if no directive concerns it. -/
def verbosity (f : LogFilter) (speaker : Speaker) : Nat :=
  ((f.decisive? speaker).map (·.verbosity)).getD 0

def shows (f : LogFilter) (e : Event) : Bool := e.level.verbosity ≤ f.verbosity e.speaker

/-- The filter for a level that the user asks for; what cannot be read counts as `info`. -/
def ofLevel (level : String) : LogFilter :=
  (read? level.toList).getD [{ verbosity := Level.info.verbosity }]

end LogFilter

end HostTelemetry
