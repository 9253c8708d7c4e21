/-!
# Blanks, words and lines

A blank is a character with the Unicode property `White_Space`. Trimming takes blanks off both
ends of a text, `words` are its maximal runs without a blank, and `lines` are its pieces between
line feeds, a carriage return before the line feed not counted.
-/

namespace HostTelemetry.Text

/-- Whether a character has the Unicode property `White_Space`. -/
def isBlank (c : Char) : Bool :=
  let n := c.toNat
  (9 ≤ n && n ≤ 13) || n == 0x20 || n == 0x85 || n == 0xA0 || n == 0x1680 ||
    (0x2000 ≤ n && n ≤ 0x200A) || n == 0x2028 || n == 0x2029 || n == 0x202F ||
    n == 0x205F || n == 0x3000

theorem isBlank_of_isWhitespace (c : Char) (h : c.isWhitespace = true) : isBlank c = true := by
  simp only [Char.isWhitespace, Bool.or_eq_true, decide_eq_true_eq] at h
  rcases h with ((h | h) | h) | h <;> subst h <;> decide

/-! ### Trimming -/

/-- The text from its first character that is no blank. -/
def trimStart (s : List Char) : List Char := s.dropWhile isBlank

/-- The text up to its last character that is no blank. -/
def trimEnd : List Char → List Char
  | [] => []
  | c :: r =>
    match trimEnd r with
    | [] => if isBlank c then [] else [c]
    | d :: t => c :: d :: t

/-- The text without the blanks at its two ends. -/
def trim (s : List Char) : List Char := trimEnd (trimStart s)

def trimmed (s : String) : String := String.ofList (trim s.toList)

def isBlankText (s : String) : Bool := s.toList.all isBlank

/-! ### Words -/

/-- The maximal runs of characters that are no blanks, in order. -/
def words : List Char → List (List Char)
  | [] => []
  | c :: r =>
    if isBlank c then words r
    else
      match r, words r with
      | [], ws => [c] :: ws
      | d :: _, ws =>
        if isBlank d then [c] :: ws
        else
          match ws with
          | [] => [[c]]
          | w :: ws => (c :: w) :: ws

def firstWord (s : List Char) : Option (List Char) := (words s).head?

/-! ### Lines -/

/-- The pieces between line feeds. A carriage return before the line feed belongs to neither
line, and a text that ends in a line feed has no empty last line. -/
def lines : List Char → List (List Char)
  | [] => []
  | c :: r =>
    if c = '\n' then [] :: lines r
    else
      match r with
      | [] => [[c]]
      | d :: _ =>
        if c = '\r' ∧ d = '\n' then lines r
        else
          match lines r with
          | [] => [[c]]
          | l :: ls => (c :: l) :: ls

end HostTelemetry.Text
