import HostTelemetry.Decimal.Layout

/-!
# Structured values as text

Values made of null, numbers, texts, lists and objects, and their text without any blanks. Objects
keep the order of their members. In a text, quotes, backslashes and control characters are escaped
and nothing else is.
-/

namespace HostTelemetry.Wire

/-- A number is given by its digits. -/
inductive Json where
  | null
  | number (digits : List Char)
  | text (value : String)
  | list (items : List Json)
  | object (members : List (String × Json))

namespace Json

def int (i : Int) : Json := .number (Decimal.intDigits i)

/-- A double by its shortest digits, or null if it is no number. -/
def double (x : Float) : Json :=
  if x.isFinite then .number (Decimal.Layout.wire.finite x) else .null

def hexDigit (n : Nat) : Char := Nat.digitChar n

/-- The form of a character inside a text. -/
def escaped (c : Char) : List Char :=
  if c = '"' then ['\\', '"']
  else if c = '\\' then ['\\', '\\']
  else if c = '\x08' then ['\\', 'b']
  else if c = '\x0c' then ['\\', 'f']
  else if c = '\n' then ['\\', 'n']
  else if c = '\r' then ['\\', 'r']
  else if c = '\t' then ['\\', 't']
  else if c.toNat < 0x20 then
    ['\\', 'u', '0', '0', hexDigit (c.toNat / 16), hexDigit (c.toNat % 16)]
  else [c]

def renderText (s : String) : List Char := '"' :: s.toList.flatMap escaped ++ ['"']

mutual

def render : Json → List Char
  | .null => ['n', 'u', 'l', 'l']
  | .number digits => digits
  | .text s => renderText s
  | .list items => '[' :: renderItems items ++ [']']
  | .object members => '\x7b' :: renderMembers members ++ ['\x7d']

/-- The texts of some values, with commas in between. -/
def renderItems : List Json → List Char
  | [] => []
  | v :: rest =>
    match rest with
    | [] => render v
    | _ :: _ => render v ++ ',' :: renderItems rest

/-- The texts of some members, with commas in between. -/
def renderMembers : List (String × Json) → List Char
  | [] => []
  | m :: rest =>
    match rest with
    | [] => renderMember m
    | _ :: _ => renderMember m ++ ',' :: renderMembers rest

def renderMember : String × Json → List Char
  | (name, v) => renderText name ++ ':' :: render v

end

def toText (v : Json) : String := String.ofList v.render

end Json

/-- The length of a text in bytes of UTF-8. -/
def byteLength (s : List Char) : Nat := (String.ofList s).utf8ByteSize

end HostTelemetry.Wire
