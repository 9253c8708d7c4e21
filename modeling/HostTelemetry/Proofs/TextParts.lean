import HostTelemetry.Text.Blank
import HostTelemetry.Text.Cut
import Mathlib.Data.List.TakeWhile

/-!
# Parts of a text

Words, lines, trimmed texts and what stands behind a mark are parts of a text with a boundary at
either end: a part begins with the text, behind a blank or behind a mark, and ends with the text or
before a blank. A part of a part is a part of the whole.
-/

namespace HostTelemetry.Text

/-- What a column of a table may stand behind without a blank. -/
def isMark (c : Char) : Bool := c == ':' || c == ')'

/-- A piece of a text that begins with it, behind a blank or behind a mark, and ends with it or
before a blank. -/
def Stands (piece text : List Char) : Prop :=
  ∃ before behind, text = before ++ piece ++ behind ∧
    (∀ c ∈ before.getLast?, isBlank c = true ∨ isMark c = true) ∧
    ∀ c ∈ behind.head?, isBlank c = true

theorem stands_self (s : List Char) : Stands s s :=
  ⟨[], [], by simp, by simp, by simp⟩

theorem Stands.trans {a b c : List Char} (hab : Stands a b) (hbc : Stands b c) : Stands a c := by
  obtain ⟨before, behind, rfl, hbefore, hbehind⟩ := hab
  obtain ⟨before', behind', rfl, hbefore', hbehind'⟩ := hbc
  refine ⟨before' ++ before, behind ++ behind', by simp, ?_, ?_⟩
  · intro d hd
    rw [List.getLast?_append] at hd
    cases hlast : before.getLast? with
    | none =>
      rw [hlast, Option.none_or] at hd
      exact hbefore' d hd
    | some e =>
      rw [hlast, Option.some_or] at hd
      exact hbefore d (hlast ▸ hd)
  · intro d hd
    rw [List.head?_append] at hd
    cases hfirst : behind.head? with
    | none =>
      rw [hfirst, Option.none_or] at hd
      exact hbehind' d hd
    | some e =>
      rw [hfirst, Option.some_or] at hd
      exact hbehind d (hfirst ▸ hd)

theorem stands_behind (before : List Char) {c : Char} (hc : isBlank c = true ∨ isMark c = true)
    (s : List Char) : Stands s (before ++ c :: s) := by
  refine ⟨before ++ [c], [], by simp, ?_, by simp⟩
  intro d hd
  rw [List.getLast?_concat, Option.mem_some_iff] at hd
  rwa [← hd]

theorem stands_start (piece : List Char) {behind : List Char}
    (h : ∀ c ∈ behind.head?, isBlank c = true) : Stands piece (piece ++ behind) :=
  ⟨[], behind, by simp, by simp, h⟩

/-! ### Words -/

def isInk (c : Char) : Bool := !isBlank c

theorem words_blank {c : Char} (hc : isBlank c = true) (r : List Char) :
    words (c :: r) = words r := by
  cases r <;> simp [words, hc]

/-- A word is a run of characters that are no blanks, up to the next blank. -/
theorem words_ink {c : Char} (hc : isBlank c = false) (r : List Char) :
    words (c :: r) = (c :: r.takeWhile isInk) :: words (r.dropWhile isInk) := by
  induction r generalizing c with
  | nil => simp [words, hc]
  | cons d r ih =>
    cases hd : isBlank d with
    | true =>
      have hink : isInk d = false := by simp [isInk, hd]
      rw [List.takeWhile_cons_of_neg (by simp [hink]), List.dropWhile_cons_of_neg (by simp [hink])]
      simp [words, hc, hd]
    | false =>
      have hink : isInk d = true := by simp [isInk, hd]
      rw [List.takeWhile_cons_of_pos hink, List.dropWhile_cons_of_pos hink]
      rw [words, if_neg (by simp [hc]), if_neg (by simp [hd]), ih hd]

theorem isBlank_of_head?_dropWhile (r : List Char) :
    ∀ d ∈ (r.dropWhile isInk).head?, isBlank d = true := by
  intro d hd
  have hnot := List.head?_dropWhile_not isInk r
  rw [Option.mem_def.1 hd] at hnot
  simpa [isInk] using hnot

theorem stands_of_mem_words {s w : List Char} (h : w ∈ words s) : Stands w s := by
  induction hn : s.length using Nat.strongRecOn generalizing s with
  | _ n ih =>
    subst hn
    cases s with
    | nil => cases h
    | cons c r =>
      cases hc : isBlank c with
      | true =>
        rw [words_blank hc] at h
        have hw := ih r.length (by simp) h rfl
        exact hw.trans (stands_behind [] (.inl hc) r)
      | false =>
        rw [words_ink hc] at h
        have hblank := isBlank_of_head?_dropWhile r
        have hsplit : c :: r = (c :: r.takeWhile isInk) ++ r.dropWhile isInk := by
          rw [List.cons_append, List.takeWhile_append_dropWhile]
        rcases List.mem_cons.1 h with rfl | h
        · rw [hsplit]
          exact stands_start _ hblank
        · -- The next word stands behind the blank that ends this one.
          cases hrest : r.dropWhile isInk with
          | nil =>
            rw [hrest] at h
            cases h
          | cons d r' =>
            have hd : isBlank d = true := hblank d (by rw [hrest]; rfl)
            rw [hrest, words_blank hd] at h
            rw [hrest] at hsplit
            have hshort : r'.length < (c :: r).length := by
              rw [hsplit]
              simp
              omega
            rw [hsplit]
            exact (ih r'.length hshort h rfl).trans (stands_behind _ (.inl hd) r')

theorem stands_of_firstWord {s w : List Char} (h : firstWord s = some w) : Stands w s :=
  stands_of_mem_words (List.mem_of_head? h)

/-! ### Lines -/

/-- A piece that a text begins with, and that ends with it or before a blank. -/
def Begins (piece text : List Char) : Prop :=
  ∃ behind, text = piece ++ behind ∧ ∀ c ∈ behind.head?, isBlank c = true

theorem Begins.stands {piece text : List Char} (h : Begins piece text) : Stands piece text := by
  obtain ⟨behind, rfl, hbehind⟩ := h
  exact stands_start piece hbehind

theorem Begins.cons {piece text : List Char} (h : Begins piece text) (c : Char) :
    Begins (c :: piece) (c :: text) := by
  obtain ⟨behind, rfl, hbehind⟩ := h
  exact ⟨behind, rfl, hbehind⟩

theorem begins_nil {text : List Char} (h : ∀ c ∈ text.head?, isBlank c = true) : Begins [] text :=
  ⟨text, rfl, h⟩

theorem lines_feed (r : List Char) : lines ('\n' :: r) = [] :: lines r := by
  cases r <;> simp [lines]

theorem lines_ne_nil (c : Char) (r : List Char) : lines (c :: r) ≠ [] := by
  induction r generalizing c with
  | nil =>
    rw [lines]
    split <;> simp
  | cons d r ih =>
    rw [lines]
    split
    · simp
    · split
      · exact ih d
      · cases lines (d :: r) <;> simp

/-- A piece that begins behind a blank of the text. -/
def BeginsLater (piece text : List Char) : Prop :=
  ∃ before c rest, text = before ++ c :: rest ∧ isBlank c = true ∧ Begins piece rest

theorem BeginsLater.cons {piece text : List Char} (h : BeginsLater piece text) (c : Char) :
    BeginsLater piece (c :: text) := by
  obtain ⟨before, d, rest, rfl, hd, hbegins⟩ := h
  exact ⟨c :: before, d, rest, rfl, hd, hbegins⟩

theorem BeginsLater.stands {piece text : List Char} (h : BeginsLater piece text) :
    Stands piece text := by
  obtain ⟨before, c, rest, rfl, hc, hbegins⟩ := h
  exact hbegins.stands.trans (stands_behind before (.inl hc) rest)

/-- The first line begins with the text, and every other one behind a blank. -/
theorem lines_cases {s l : List Char} {ls : List (List Char)} (h : lines s = l :: ls) :
    Begins l s ∧ ∀ l' ∈ ls, BeginsLater l' s := by
  induction s generalizing l ls with
  | nil => cases h
  | cons c r ih =>
    by_cases hc : c = '\n'
    · subst hc
      rw [lines_feed, List.cons.injEq] at h
      obtain ⟨rfl, rfl⟩ := h
      refine ⟨begins_nil (by simp [isBlank]), fun l' hl' => ?_⟩
      cases hr : lines r with
      | nil => simp [hr] at hl'
      | cons l ls =>
        obtain ⟨hfirst, hlater⟩ := ih hr
        rw [hr, List.mem_cons] at hl'
        rcases hl' with rfl | hl'
        · exact ⟨[], '\n', r, rfl, by decide, hfirst⟩
        · exact (hlater l' hl').cons '\n'
    · cases r with
      | nil =>
        simp only [lines, hc, if_false, List.cons.injEq] at h
        obtain ⟨rfl, rfl⟩ := h
        exact ⟨(begins_nil (by simp)).cons c, by simp⟩
      | cons d r =>
        by_cases hreturn : c = '\r' ∧ d = '\n'
        · obtain ⟨rfl, rfl⟩ := hreturn
          rw [lines, if_neg hc, if_pos ⟨rfl, rfl⟩] at h
          obtain ⟨-, hlater⟩ := ih h
          rw [lines_feed, List.cons.injEq] at h
          obtain ⟨rfl, rfl⟩ := h
          exact ⟨begins_nil (by simp [isBlank]), fun l' hl' => (hlater l' hl').cons '\r'⟩
        · cases hr : lines (d :: r) with
          | nil => exact absurd hr (lines_ne_nil d r)
          | cons l₁ ls₁ =>
            rw [lines, if_neg hc, if_neg hreturn, hr, List.cons.injEq] at h
            obtain ⟨rfl, rfl⟩ := h
            obtain ⟨hfirst, hlater⟩ := ih hr
            exact ⟨hfirst.cons c, fun l' hl' => (hlater l' hl').cons c⟩

theorem stands_of_mem_lines {s l : List Char} (h : l ∈ lines s) : Stands l s := by
  cases hs : lines s with
  | nil => simp [hs] at h
  | cons first rest =>
    obtain ⟨hfirst, hlater⟩ := lines_cases hs
    rw [hs, List.mem_cons] at h
    rcases h with rfl | h
    · exact hfirst.stands
    · exact (hlater l h).stands

/-! ### Trimmed texts -/

theorem stands_trimStart (s : List Char) : Stands (trimStart s) s := by
  refine ⟨s.takeWhile isBlank, [], ?_, fun c hc => .inl ?_, by simp⟩
  · rw [List.append_nil]
    exact List.takeWhile_append_dropWhile.symm
  · exact List.mem_takeWhile_imp (List.mem_of_getLast? hc)

theorem begins_trimEnd (s : List Char) : ∃ behind, s = trimEnd s ++ behind ∧
    ∀ c ∈ behind, isBlank c = true := by
  induction s with
  | nil => exact ⟨[], rfl, by simp⟩
  | cons c r ih =>
    obtain ⟨behind, hr, hbehind⟩ := ih
    cases htrim : trimEnd r with
    | nil =>
      rw [htrim, List.nil_append] at hr
      subst hr
      by_cases hc : isBlank c = true
      · exact ⟨c :: r, by simp [trimEnd, htrim, hc], by simpa [hc] using hbehind⟩
      · exact ⟨r, by simp [trimEnd, htrim, hc], hbehind⟩
    | cons d t =>
      refine ⟨behind, ?_, hbehind⟩
      rw [trimEnd, htrim, List.cons_append, ← htrim, ← hr]

theorem stands_trimEnd (s : List Char) : Stands (trimEnd s) s := by
  obtain ⟨behind, hs, hbehind⟩ := begins_trimEnd s
  exact ⟨[], behind, hs, by simp, fun c hc => hbehind c (List.mem_of_head? hc)⟩

theorem stands_trim (s : List Char) : Stands (trim s) s :=
  (stands_trimEnd _).trans (stands_trimStart s)

/-- A text is its trimmed form between blanks. -/
theorem exists_trim (s : List Char) : ∃ before behind, s = before ++ trim s ++ behind ∧
    (∀ c ∈ before, isBlank c = true) ∧ ∀ c ∈ behind, isBlank c = true := by
  obtain ⟨behind, hsplit, hbehind⟩ := begins_trimEnd (trimStart s)
  refine ⟨s.takeWhile isBlank, behind, ?_, fun c hc => List.mem_takeWhile_imp hc, hbehind⟩
  calc s
    _ = s.takeWhile isBlank ++ trimStart s := List.takeWhile_append_dropWhile.symm
    _ = s.takeWhile isBlank ++ (trim s ++ behind) := congrArg _ hsplit
    _ = s.takeWhile isBlank ++ trim s ++ behind := (List.append_assoc ..).symm

/-- Trimming takes blanks off and nothing else. -/
theorem all_isBlank_trim (s : List Char) : (trim s).all isBlank = s.all isBlank := by
  obtain ⟨before, behind, hs, hbefore, hbehind⟩ := exists_trim s
  conv => rhs; rw [hs]
  rw [List.all_append, List.all_append, List.all_eq_true.2 hbefore, List.all_eq_true.2 hbehind,
    Bool.true_and, Bool.and_true]

theorem trim_eq_nil_iff (s : List Char) : trim s = [] ↔ s.all isBlank = true := by
  constructor
  · intro h
    rw [← all_isBlank_trim, h]
    rfl
  · intro h
    rw [trim, trimStart, List.dropWhile_eq_nil_iff.2 (List.all_eq_true.1 h)]
    rfl

/-! ### Behind a mark -/

theorem stands_of_cutFirst {mark : Char} (hmark : isMark mark = true) {s a b : List Char}
    (h : cutFirst mark s = some (a, b)) : Stands b s := by
  rw [(eq_of_cutFirst h).1]
  exact stands_behind a (.inr hmark) b

end HostTelemetry.Text
