import HostTelemetry.Text.PrintTable

/-!
# Quoted texts

A text shown between double quotes, for messages: quotes and backslashes are escaped, and a
character without a visible form of its own is written by its number, as in `\u{200b}`.
-/

namespace HostTelemetry.Text

/-- Whether a character is shown by its number. -/
def isHidden (c : Char) : Bool :=
  c.toNat < 0x20 ||
    (0x7F ≤ c.toNat && (extending.contains c.toNat || unprintable.contains c.toNat))

/-- The form of one character between quotes. -/
def quotedChar (c : Char) : List Char :=
  match c with
  | '\x00' => ['\\', '0']
  | '\t' => ['\\', 't']
  | '\n' => ['\\', 'n']
  | '\r' => ['\\', 'r']
  | '"' => ['\\', '"']
  | '\\' => ['\\', '\\']
  | c =>
    if isHidden c then ['\\', 'u', '\x7b'] ++ hexDigits c.toNat ++ ['\x7d']
    else [c]

def quoted (s : String) : String :=
  String.ofList ('"' :: s.toList.flatMap quotedChar ++ ['"'])

end HostTelemetry.Text
