import HostTelemetry.Proofs.NumberText
import HostTelemetry.Text.CodeTable
import HostTelemetry.Wire.Json

/-!
# Reading structured texts

A reader goes over a text once. It keeps the lists and objects that are still open, the place it
has reached in the innermost one, and what it has read of a word or of a quoted text. It takes
nothing but structured texts: blanks stand between values only, a control character inside a text
is escaped, a number has the form of a number. What was rendered is read back.
-/

namespace HostTelemetry.Wire.Json

/-! ### The reader -/

/-- A list or an object that is still open, with what stands in it before the value to come. -/
inductive Frame where
  | list (before : List Json)
  | member (before : List (String × Json)) (name : String)

/-- What may come next. -/
inductive Place where
  | value
  | firstItem
  | firstName
  | name (before : List (String × Json))
  | colon (before : List (String × Json)) (name : String)
  /-- Behind a value. -/
  | after (v : Json)

structure Reader where
  place : Place
  frames : List Frame

namespace Reader

def value? (r : Reader) (v : Json) : Option Reader :=
  match r.place with
  | .value | .firstItem => some ⟨.after v, r.frames⟩
  | _ => none

def text? (r : Reader) (s : String) : Option Reader :=
  match r.place with
  | .firstName => some ⟨.colon [] s, r.frames⟩
  | .name before => some ⟨.colon before s, r.frames⟩
  | _ => r.value? (.text s)

def word? (r : Reader) (w : List Char) : Option Reader :=
  if w = ['n', 'u', 'l', 'l'] then r.value? .null
  else if Decimal.isNumber w then r.value? (.number w)
  else none

def openList? (r : Reader) : Option Reader :=
  match r.place with
  | .value | .firstItem => some ⟨.firstItem, .list [] :: r.frames⟩
  | _ => none

def openObject? (r : Reader) : Option Reader :=
  match r.place with
  | .value | .firstItem => some ⟨.firstName, r.frames⟩
  | _ => none

def colon? (r : Reader) : Option Reader :=
  match r.place with
  | .colon before name => some ⟨.value, .member before name :: r.frames⟩
  | _ => none

def comma? (r : Reader) : Option Reader :=
  match r.place, r.frames with
  | .after v, .list before :: rest => some ⟨.value, .list (before ++ [v]) :: rest⟩
  | .after v, .member before name :: rest => some ⟨.name (before ++ [(name, v)]), rest⟩
  | _, _ => none

def closeList? (r : Reader) : Option Reader :=
  match r.place, r.frames with
  | .firstItem, .list [] :: rest => some ⟨.after (.list []), rest⟩
  | .after v, .list before :: rest => some ⟨.after (.list (before ++ [v])), rest⟩
  | _, _ => none

def closeObject? (r : Reader) : Option Reader :=
  match r.place, r.frames with
  | .firstName, rest => some ⟨.after (.object []), rest⟩
  | .after v, .member before name :: rest => some ⟨.after (.object (before ++ [(name, v)])), rest⟩
  | _, _ => none

def isMark (c : Char) : Bool := ['[', ']', '\x7b', '\x7d', ',', ':'].contains c

def mark? (r : Reader) (c : Char) : Option Reader :=
  if c = '[' then r.openList?
  else if c = ']' then r.closeList?
  else if c = '\x7b' then r.openObject?
  else if c = '\x7d' then r.closeObject?
  else if c = ',' then r.comma?
  else r.colon?

/-- The value, if all of it has been read. -/
def result? (r : Reader) : Option Json :=
  match r.place, r.frames with
  | .after v, [] => some v
  | _, _ => none

end Reader

def isGap (c : Char) : Bool := [' ', '\t', '\n', '\r'].contains c

/-- The character that an escape of one letter stands for. -/
def shortEscape? (c : Char) : Option Char :=
  if c = '"' ∨ c = '\\' ∨ c = '/' then some c
  else if c = 'b' then some '\x08'
  else if c = 'f' then some '\x0c'
  else if c = 'n' then some '\n'
  else if c = 'r' then some '\r'
  else if c = 't' then some '\t'
  else none

/-- The character of four digits in base sixteen. Halves of a character are refused. -/
def codedChar? (digits : List Char) : Option Char :=
  let n := Text.ofHexDigits digits
  if digits.all (fun d => (Text.hexDigit? d).isSome) ∧ n.isValidChar then some (Char.ofNat n)
  else none

/-- Between what the reader is. -/
inductive Mode where
  | between
  | word (read : List Char)
  | text (read : List Char)
  | escape (read : List Char)
  | code (read digits : List Char)

def advance? (r : Reader) (mode : Mode) (c : Char) : Option (Reader × Mode) :=
  match mode with
  | .between =>
    if c = '"' then some (r, .text [])
    else if isGap c then some (r, .between)
    else if Reader.isMark c then (r.mark? c).map (·, .between)
    else some (r, .word [c])
  | .word read =>
    if isGap c then (r.word? read).map (·, .between)
    else if Reader.isMark c then ((r.word? read).bind (·.mark? c)).map (·, .between)
    else some (r, .word (read ++ [c]))
  | .text read =>
    if c = '"' then (r.text? (String.ofList read)).map (·, .between)
    else if c = '\\' then some (r, .escape read)
    else if c.toNat < 0x20 then none
    else some (r, .text (read ++ [c]))
  | .escape read =>
    if c = 'u' then some (r, .code read [])
    else (shortEscape? c).map fun d => (r, .text (read ++ [d]))
  | .code read digits =>
    if digits.length < 3 then some (r, .code read (digits ++ [c]))
    else (codedChar? (digits ++ [c])).map fun d => (r, .text (read ++ [d]))

def finish? (r : Reader) : Mode → Option Json
  | .between => r.result?
  | .word read => (r.word? read).bind (·.result?)
  | _ => none

def run (r : Reader) (mode : Mode) : List Char → Option Json
  | [] => finish? r mode
  | c :: rest => (advance? r mode c).bind fun s => run s.1 s.2 rest

/-- The value of a structured text. -/
def read? (s : String) : Option Json := run ⟨.value, []⟩ .between s.toList

theorem run_cons (r : Reader) (mode : Mode) (c : Char) (rest : List Char) :
    run r mode (c :: rest) = (advance? r mode c).bind fun s => run s.1 s.2 rest := rfl

/-! ### Texts -/

/-- The two digits in which a control character is written. -/
theorem codedChar?_control {c : Char} (h : c.toNat < 0x20) :
    codedChar? ['0', '0', hexDigit (c.toNat / 16), hexDigit (c.toNat % 16)] = some c := by
  have hall : ∀ n < 0x20,
      codedChar? ['0', '0', hexDigit (n / 16), hexDigit (n % 16)] = some (Char.ofNat n) := by
    decide
  rw [hall c.toNat h, Char.ofNat_toNat]

/-- The form of a character is read as that character. -/
theorem run_escaped (r : Reader) (c : Char) (read rest : List Char) :
    run r (.text read) (escaped c ++ rest) = run r (.text (read ++ [c])) rest := by
  by_cases hshort : c ∈ ['"', '\\', '\x08', '\x0c', '\n', '\r', '\t']
  · simp only [List.mem_cons, List.not_mem_nil, or_false] at hshort
    rcases hshort with rfl | rfl | rfl | rfl | rfl | rfl | rfl <;> rfl
  · simp only [List.mem_cons, List.not_mem_nil, or_false, not_or] at hshort
    obtain ⟨hquote, hslash, hb, hf, hn, hr, ht⟩ := hshort
    simp only [escaped, hquote, hslash, hb, hf, hn, hr, ht, if_false]
    split
    · next h =>
      have hcode : run r (.code read ['0', '0', hexDigit (c.toNat / 16)])
          (hexDigit (c.toNat % 16) :: rest) = run r (.text (read ++ [c])) rest := by
        simp [run_cons, advance?, codedChar?_control h]
      exact hcode
    · next hcontrol => simp [run_cons, advance?, hquote, hslash, hcontrol]

theorem run_text (r : Reader) (s read rest : List Char) :
    run r (.text read) (s.flatMap escaped ++ '"' :: rest) =
      (r.text? (String.ofList (read ++ s))).bind fun r' => run r' .between rest := by
  induction s generalizing read with
  | nil =>
    rw [List.append_nil, List.flatMap_nil, List.nil_append, run_cons]
    have hquote : advance? r (.text read) '"' =
        (r.text? (String.ofList read)).map (·, .between) := rfl
    rw [hquote]
    cases r.text? (String.ofList read) with
    | none => rfl
    | some r' => rfl
  | cons c s ih =>
    rw [List.flatMap_cons, List.append_assoc, run_escaped, ih, List.append_assoc,
      List.singleton_append]

theorem run_renderText (r : Reader) (s : String) (rest : List Char) :
    run r .between (renderText s ++ rest) =
      (r.text? s).bind fun r' => run r' .between rest := by
  have h := run_text r s.toList [] rest
  rw [List.nil_append, String.ofList_toList] at h
  rw [← h, renderText, List.append_assoc]
  rfl

/-! ### Words -/

/-- Nothing follows that could belong to a word. -/
def Delimited (rest : List Char) : Prop := ∀ c ∈ rest.head?, Reader.isMark c = true

/-- A character that only a word has outside a text. -/
def IsPlain (c : Char) : Prop := c ≠ '"' ∧ isGap c = false ∧ Reader.isMark c = false

theorem not_isGap_of_isMark {c : Char} (h : Reader.isMark c = true) : isGap c = false := by
  simp only [Reader.isMark, List.contains_iff_mem, List.mem_cons, List.not_mem_nil, or_false] at h
  rcases h with rfl | rfl | rfl | rfl | rfl | rfl <;> rfl

theorem isPlain_of_isNumberChar {c : Char} (h : Decimal.isNumberChar c = true) : IsPlain c := by
  refine ⟨?_, ?_, ?_⟩
  · rintro rfl
    cases h
  · rw [Bool.eq_false_iff]
    intro hgap
    simp only [isGap, List.contains_iff_mem, List.mem_cons, List.not_mem_nil, or_false] at hgap
    rcases hgap with rfl | rfl | rfl | rfl <;> cases h
  · rw [Bool.eq_false_iff]
    intro hmark
    simp only [Reader.isMark, List.contains_iff_mem, List.mem_cons, List.not_mem_nil, or_false]
      at hmark
    rcases hmark with rfl | rfl | rfl | rfl | rfl | rfl <;> cases h

theorem run_word_append (r : Reader) (read w rest : List Char) (h : ∀ c ∈ w, IsPlain c) :
    run r (.word read) (w ++ rest) = run r (.word (read ++ w)) rest := by
  induction w generalizing read with
  | nil => rw [List.append_nil, List.nil_append]
  | cons c w ih =>
    obtain ⟨⟨-, hgap, hmark⟩, hw⟩ := List.forall_mem_cons.1 h
    rw [List.cons_append, run_cons]
    simp only [advance?, hgap, hmark, Bool.false_eq_true, if_false, Option.bind_some]
    rw [ih (read ++ [c]) hw, List.append_assoc, List.singleton_append]

theorem run_word_end (r : Reader) (w rest : List Char) (hrest : Delimited rest) :
    run r (.word w) rest = (r.word? w).bind fun r' => run r' .between rest := by
  cases rest with
  | nil => rfl
  | cons c rest =>
    have hmark : Reader.isMark c = true := hrest c rfl
    have hgap := not_isGap_of_isMark hmark
    have hquote : c ≠ '"' := by
      rintro rfl
      cases hmark
    simp only [run_cons, advance?, hgap, hmark, hquote, Bool.false_eq_true, if_false, if_true]
    cases r.word? w with
    | none => rfl
    | some r' => rfl

theorem run_word (r : Reader) (w rest : List Char) (hne : w ≠ []) (h : ∀ c ∈ w, IsPlain c)
    (hrest : Delimited rest) :
    run r .between (w ++ rest) = (r.word? w).bind fun r' => run r' .between rest := by
  obtain ⟨c, w, rfl⟩ := List.exists_cons_of_ne_nil hne
  obtain ⟨⟨hquote, hgap, hmark⟩, hw⟩ := List.forall_mem_cons.1 h
  rw [List.cons_append, run_cons]
  simp only [advance?, hquote, hgap, hmark, Bool.false_eq_true, if_false, Option.bind_some]
  rw [run_word_append r [c] w rest hw, List.singleton_append, run_word_end r (c :: w) rest hrest]

/-! ### Values -/

/-- A value whose numbers have the form of numbers, and whose objects repeat no name. -/
inductive Proper : Json → Prop where
  | null : Proper .null
  | number {digits : List Char} : Decimal.isNumber digits = true → Proper (.number digits)
  | text (s : String) : Proper (.text s)
  | list {items : List Json} : (∀ v ∈ items, Proper v) → Proper (.list items)
  | object {members : List (String × Json)} : (members.map (·.1)).Nodup →
      (∀ m ∈ members, Proper m.2) → Proper (.object members)

def Place.AwaitsValue (p : Place) : Prop := p = .value ∨ p = .firstItem

/-- A text that is read as a value, wherever a value may stand. -/
def Reads (s : List Char) (v : Json) : Prop :=
  ∀ (p : Place) (frames : List Frame) (rest : List Char), p.AwaitsValue → Delimited rest →
    run ⟨p, frames⟩ .between (s ++ rest) = run ⟨.after v, frames⟩ .between rest

theorem delimited_cons {c : Char} {rest : List Char} (h : Reader.isMark c = true) :
    Delimited (c :: rest) := by
  rintro d hd
  cases hd
  exact h

theorem reads_null : Reads ['n', 'u', 'l', 'l'] .null := by
  intro p frames rest hp hrest
  have hplain : ∀ c ∈ ['n', 'u', 'l', 'l'], IsPlain c := by
    simp [IsPlain, isGap, Reader.isMark]
  rw [run_word _ _ _ (by simp) hplain hrest]
  rcases hp with rfl | rfl <;> rfl

theorem reads_number {digits : List Char} (h : Decimal.isNumber digits = true) :
    Reads digits (.number digits) := by
  intro p frames rest hp hrest
  have hplain : ∀ c ∈ digits, IsPlain c := fun c hc =>
    isPlain_of_isNumberChar (Decimal.isNumberChar_of_isNumber h c hc)
  have hnull : digits ≠ ['n', 'u', 'l', 'l'] := by
    rintro rfl
    cases h
  rw [run_word _ _ _ (Decimal.ne_nil_of_isNumber h) hplain hrest]
  simp only [Reader.word?, hnull, h, if_true, if_false]
  rcases hp with rfl | rfl <;> rfl

theorem reads_text (s : String) : Reads (renderText s) (.text s) := by
  intro p frames rest hp _
  rw [run_renderText]
  rcases hp with rfl | rfl <;> rfl

theorem run_mark (r : Reader) {c : Char} (rest : List Char) (h : Reader.isMark c = true) :
    run r .between (c :: rest) = (r.mark? c).bind fun r' => run r' .between rest := by
  have hgap := not_isGap_of_isMark h
  have hquote : c ≠ '"' := by
    rintro rfl
    cases h
  simp only [run_cons, advance?, hgap, h, hquote, Bool.false_eq_true, if_false, if_true]
  cases r.mark? c with
  | none => rfl
  | some r' => rfl

theorem run_items {items : List Json} (h : ∀ v ∈ items, Reads v.render v) (hne : items ≠ [])
    (p : Place) (before : List Json) (frames : List Frame) (rest : List Char)
    (hp : p.AwaitsValue) :
    run ⟨p, .list before :: frames⟩ .between (renderItems items ++ ']' :: rest) =
      run ⟨.after (.list (before ++ items)), frames⟩ .between rest := by
  induction items generalizing p before with
  | nil => exact absurd rfl hne
  | cons v items ih =>
    obtain ⟨hv, hitems⟩ := List.forall_mem_cons.1 h
    cases items with
    | nil =>
      rw [renderItems, hv p _ _ hp (delimited_cons rfl), run_mark _ _ rfl]
      rfl
    | cons w items =>
      have hnext := ih hitems (List.cons_ne_nil w items) .value (before ++ [v]) (.inl rfl)
      rw [List.append_assoc, List.singleton_append] at hnext
      rw [renderItems, List.append_assoc, List.cons_append, hv p _ _ hp (delimited_cons rfl),
        run_mark _ _ rfl, ← hnext]
      rfl

/-- The members before the name that is awaited. -/
def Place.namesBehind? : Place → Option (List (String × Json))
  | .firstName => some []
  | .name before => some before
  | _ => none

theorem run_member {name : String} {v : Json} (h : Reads v.render v) (p : Place)
    (before : List (String × Json)) (frames : List Frame) (rest : List Char)
    (hp : p.namesBehind? = some before) (hrest : Delimited rest) :
    run ⟨p, frames⟩ .between (renderMember (name, v) ++ rest) =
      run ⟨.after v, .member before name :: frames⟩ .between rest := by
  have htext : Reader.text? ⟨p, frames⟩ name = some ⟨.colon before name, frames⟩ := by
    cases p <;> cases hp <;> rfl
  rw [renderMember, List.append_assoc, run_renderText, htext, List.cons_append, Option.bind_some,
    run_mark _ _ rfl, ← h .value (.member before name :: frames) rest (.inl rfl) hrest]
  rfl

theorem run_members {members : List (String × Json)} (h : ∀ m ∈ members, Reads m.2.render m.2)
    (hne : members ≠ []) (p : Place) (before : List (String × Json)) (frames : List Frame)
    (rest : List Char) (hp : p.namesBehind? = some before) :
    run ⟨p, frames⟩ .between (renderMembers members ++ '\x7d' :: rest) =
      run ⟨.after (.object (before ++ members)), frames⟩ .between rest := by
  induction members generalizing p before with
  | nil => exact absurd rfl hne
  | cons m members ih =>
    obtain ⟨hm, hmembers⟩ := List.forall_mem_cons.1 h
    obtain ⟨name, v⟩ := m
    cases members with
    | nil =>
      rw [renderMembers, run_member hm p before _ _ hp (delimited_cons rfl), run_mark _ _ rfl]
      rfl
    | cons w members =>
      have hnext := ih hmembers (List.cons_ne_nil w members) (.name (before ++ [(name, v)])) _ rfl
      rw [List.append_assoc, List.singleton_append] at hnext
      rw [renderMembers, List.append_assoc, List.cons_append,
        run_member hm p before _ _ hp (delimited_cons rfl), run_mark _ _ rfl, ← hnext]
      rfl

theorem reads_list {items : List Json} (h : ∀ v ∈ items, Reads v.render v) :
    Reads (render (.list items)) (.list items) := by
  intro p frames rest hp _
  have hopen : Reader.mark? ⟨p, frames⟩ '[' = some ⟨.firstItem, .list [] :: frames⟩ := by
    rcases hp with rfl | rfl <;> rfl
  rw [render, List.cons_append, List.cons_append, run_mark _ _ rfl, hopen, Option.bind_some,
    List.append_assoc, List.singleton_append]
  cases items with
  | nil => rfl
  | cons v items =>
    exact run_items h (List.cons_ne_nil v items) .firstItem [] frames rest (.inr rfl)

theorem reads_object {members : List (String × Json)} (h : ∀ m ∈ members, Reads m.2.render m.2) :
    Reads (render (.object members)) (.object members) := by
  intro p frames rest hp _
  have hopen : Reader.mark? ⟨p, frames⟩ '\x7b' = some ⟨.firstName, frames⟩ := by
    rcases hp with rfl | rfl <;> rfl
  rw [render, List.cons_append, List.cons_append, run_mark _ _ rfl, hopen, Option.bind_some,
    List.append_assoc, List.singleton_append]
  cases members with
  | nil => rfl
  | cons m members =>
    exact run_members h (List.cons_ne_nil m members) .firstName [] frames rest rfl

theorem reads_render {v : Json} (h : v.Proper) : Reads v.render v := by
  induction h with
  | null => exact reads_null
  | number hdigits => exact reads_number hdigits
  | text s => exact reads_text s
  | list _ ih => exact reads_list ih
  | object _ _ ih => exact reads_object ih

/-- What is rendered is read back. -/
theorem read?_toText {v : Json} (h : v.Proper) : read? v.toText = some v := by
  have hread := reads_render h .value [] [] (.inl rfl) (fun c hc => by cases hc)
  rw [List.append_nil] at hread
  rw [read?, toText, String.toList_ofList, hread]
  rfl

end HostTelemetry.Wire.Json
