import HostTelemetry.Proofs.TextEnds

/-!
# Words on lines, and lines in texts

Words laid out on a line, with blanks between them, are what the line is split into. Lines put one
behind the other, each with a line feed at its end, are what the text is split into, but for a
carriage return at the end of a line.
-/

namespace HostTelemetry.Text

/-! ### Words on a line -/

structure IsWord (w : List Char) : Prop where
  ne_nil : w ≠ []
  ink : ∀ c ∈ w, isBlank c = false

instance (w : List Char) : Decidable (IsWord w) :=
  decidable_of_iff (w ≠ [] ∧ w.all (!isBlank ·) = true)
    ⟨fun h => ⟨h.1, by simpa using h.2⟩, fun h => ⟨h.ne_nil, by simpa using h.ink⟩⟩

theorem IsWord.isTrimmed {w : List Char} (h : IsWord w) : IsTrimmed w :=
  ⟨fun c hc => h.ink c (List.mem_of_head? hc), fun c hc => h.ink c (List.mem_of_getLast? hc)⟩

/-- Words laid out on a line: at least one blank stands between each two of them, and blanks may
stand at the two ends. -/
inductive LaidOut : List (List Char) → List Char → Prop
  | empty : LaidOut [] []
  | blank {ws : List (List Char)} {line : List Char} {c : Char} : isBlank c = true → c ≠ '\n' →
      LaidOut ws line → LaidOut ws (c :: line)
  | word {ws : List (List Char)} {line w : List Char} : IsWord w →
      (∀ c ∈ line.head?, isBlank c = true) → LaidOut ws line → LaidOut (w :: ws) (w ++ line)

variable {ws : List (List Char)} {line w s : List Char}

/-- A word ends with the text or before a blank. -/
theorem words_word_append (hw : IsWord w) (hs : ∀ c ∈ s.head?, isBlank c = true) :
    words (w ++ s) = w :: words s := by
  cases w with
  | nil => exact absurd rfl hw.ne_nil
  | cons c r =>
    obtain ⟨hc, hr⟩ := List.forall_mem_cons.1 hw.ink
    have hink : ∀ d ∈ r, isInk d = true := fun d hd => by simp [isInk, hr d hd]
    have hstop : s.takeWhile isInk = [] ∧ s.dropWhile isInk = s := by
      cases s with
      | nil => exact ⟨rfl, rfl⟩
      | cons d s =>
        have hd : isInk d = false := by simp [isInk, hs d rfl]
        exact ⟨List.takeWhile_cons_of_neg (by simp [hd]), List.dropWhile_cons_of_neg (by simp [hd])⟩
    rw [List.cons_append, words_ink hc, List.takeWhile_append_of_pos hink,
      List.dropWhile_append_of_pos hink, hstop.1, hstop.2, List.append_nil]

theorem LaidOut.words_eq (h : LaidOut ws line) : words line = ws := by
  induction h with
  | empty => rfl
  | blank hc _ _ ih => rw [words_blank hc, ih]
  | word hw hline _ ih => rw [words_word_append hw hline, ih]

theorem LaidOut.feed_not_mem (h : LaidOut ws line) : '\n' ∉ line := by
  induction h with
  | empty => simp
  | blank _ hc _ ih => exact List.not_mem_cons_of_ne_of_not_mem hc.symm ih
  | word hw _ _ ih =>
    rw [List.mem_append, not_or]
    exact ⟨fun hmem => absurd (hw.ink _ hmem) (by decide), ih⟩

theorem LaidOut.isBlank_of_nil (h : LaidOut [] line) : ∀ c ∈ line, isBlank c = true := by
  generalize hws : ([] : List (List Char)) = ws at h
  induction h with
  | empty => simp
  | blank hc _ _ ih => exact List.forall_mem_cons.2 ⟨hc, ih hws⟩
  | word _ _ _ _ => cases hws

/-- A word alone on its line stands between blanks. -/
theorem LaidOut.exists_between (h : LaidOut [w] line) : IsWord w ∧ ∃ before behind,
    line = before ++ w ++ behind ∧ (∀ c ∈ before, isBlank c = true) ∧
      ∀ c ∈ behind, isBlank c = true := by
  generalize hws : [w] = ws at h
  induction h with
  | empty => cases hws
  | blank hc _ _ ih =>
    obtain ⟨hw, before, behind, rfl, hbefore, hbehind⟩ := ih hws
    exact ⟨hw, _ :: before, behind, rfl, List.forall_mem_cons.2 ⟨hc, hbefore⟩, hbehind⟩
  | word hw _ hline _ =>
    obtain ⟨rfl, rfl⟩ := List.cons.inj hws
    exact ⟨hw, [], _, rfl, by simp, hline.isBlank_of_nil⟩

theorem LaidOut.trim_eq (h : LaidOut [w] line) : trim line = w := by
  obtain ⟨hw, before, behind, rfl, hbefore, hbehind⟩ := h.exists_between
  exact trim_between hw.isTrimmed hbefore hbehind

theorem LaidOut.not_mem (h : LaidOut [w] line) {c : Char} (hc : isBlank c = false) (hw : c ∉ w) :
    c ∉ line := by
  obtain ⟨-, before, behind, rfl, hbefore, hbehind⟩ := h.exists_between
  have hblank : ∀ s : List Char, (∀ d ∈ s, isBlank d = true) → c ∉ s := fun s hs hmem => by
    rw [hs c hmem] at hc
    cases hc
  simp [hw, hblank before hbefore, hblank behind hbehind]

/-- Words with a single space in front of each. -/
theorem laidOut_flatMap (h : ∀ w ∈ ws, IsWord w) : LaidOut ws (ws.flatMap (' ' :: ·)) := by
  induction ws with
  | nil => exact .empty
  | cons w ws ih =>
    obtain ⟨hw, hws⟩ := List.forall_mem_cons.1 h
    rw [List.flatMap_cons, List.cons_append]
    refine .blank (by decide) (by decide) (.word hw (fun c hc => ?_) (ih hws))
    cases ws with
    | nil => simp at hc
    | cons w' ws =>
      rw [List.flatMap_cons, List.cons_append, List.head?_cons, Option.mem_some_iff] at hc
      rw [← hc]
      decide

theorem words_concat_blank {c : Char} (hc : isBlank c = true) (s : List Char) :
    words (s ++ [c]) = words s := by
  induction s with
  | nil => rw [List.nil_append, words_blank hc]
  | cons d r ih =>
    cases r with
    | nil => cases hd : isBlank d <;> simp [words, hc, hd]
    | cons e r => simp only [List.cons_append, words] at ih ⊢; rw [ih]

/-! ### Lines in a text -/

/-- A line without the carriage return at its end. -/
def withoutReturn : List Char → List Char
  | [] => []
  | c :: r => if c = '\r' ∧ r = [] then [] else c :: withoutReturn r

/-- The text of some lines, each of them with a line feed at its end. -/
def fedLines (ls : List (List Char)) : List Char := ls.flatMap (· ++ ['\n'])

theorem lines_append_feed (h : '\n' ∉ line) (s : List Char) :
    lines (line ++ '\n' :: s) = withoutReturn line :: lines s := by
  induction line with
  | nil => exact lines_feed s
  | cons c r ih =>
    rw [List.mem_cons, not_or] at h
    have hfeed : c ≠ '\n' := Ne.symm h.1
    cases r with
    | nil =>
      by_cases hreturn : c = '\r'
      · subst hreturn
        simp [lines, withoutReturn]
      · simp [lines, withoutReturn, hfeed, hreturn]
    | cons d r =>
      have hd : d ≠ '\n' := fun hd => h.2 (hd ▸ List.mem_cons_self)
      have hrest := ih h.2
      rw [List.cons_append] at hrest
      rw [List.cons_append, List.cons_append, lines, if_neg hfeed, if_neg fun hcd => hd hcd.2,
        hrest]
      simp [withoutReturn]

theorem lines_fedLines {ls : List (List Char)} (h : ∀ l ∈ ls, '\n' ∉ l) :
    lines (fedLines ls) = ls.map withoutReturn := by
  induction ls with
  | nil => rfl
  | cons l ls ih =>
    obtain ⟨hl, hls⟩ := List.forall_mem_cons.1 h
    rw [fedLines, List.flatMap_cons, List.append_assoc, List.singleton_append,
      lines_append_feed hl, List.map_cons]
    exact congrArg _ (ih hls)

theorem withoutReturn_cases (s : List Char) :
    withoutReturn s = s ∨ ∃ r, s = r ++ ['\r'] ∧ withoutReturn s = r := by
  induction s with
  | nil => exact .inl rfl
  | cons c r ih =>
    unfold withoutReturn
    split
    · next h => exact .inr ⟨[], by simp [h], rfl⟩
    · rcases ih with ih | ⟨r', hr, ih⟩
      · exact .inl (by rw [ih])
      · exact .inr ⟨c :: r', by rw [hr, List.cons_append], by rw [ih]⟩

theorem withoutReturn_prefix (s : List Char) : withoutReturn s <+: s := by
  rcases withoutReturn_cases s with hs | ⟨r, rfl, hr⟩
  · exact ⟨[], by rw [hs, List.append_nil]⟩
  · rw [hr]
    exact List.prefix_append r _

theorem words_withoutReturn (s : List Char) : words (withoutReturn s) = words s := by
  rcases withoutReturn_cases s with hs | ⟨r, rfl, hr⟩
  · rw [hs]
  · rw [hr, words_concat_blank (by decide)]

theorem withoutReturn_mark {mark : Char} (hmark : mark ≠ '\r') (s r : List Char) :
    withoutReturn (s ++ mark :: r) = s ++ mark :: withoutReturn r := by
  induction s with
  | nil => rw [List.nil_append, withoutReturn, if_neg fun h => hmark h.1, List.nil_append]
  | cons c s ih => rw [List.cons_append, withoutReturn, if_neg (by simp), ih, List.cons_append]

theorem lines_of_feed_not_mem (h : '\n' ∉ line) (hne : line ≠ []) : lines line = [line] := by
  induction line with
  | nil => exact absurd rfl hne
  | cons c r ih =>
    rw [List.mem_cons, not_or] at h
    have hfeed : c ≠ '\n' := Ne.symm h.1
    cases r with
    | nil => simp [lines, hfeed]
    | cons d r =>
      have hd : d ≠ '\n' := fun hd => h.2 (hd ▸ List.mem_cons_self)
      rw [lines, if_neg hfeed, if_neg fun hcd => hd hcd.2, ih h.2 (by simp)]

theorem feed_not_mem_of_mem_lines (h : line ∈ lines s) : '\n' ∉ line := by
  induction s generalizing line with
  | nil => cases h
  | cons c r ih =>
    by_cases hc : c = '\n'
    · subst hc
      rw [lines_feed, List.mem_cons] at h
      rcases h with rfl | h
      · simp
      · exact ih h
    · cases r with
      | nil =>
        simp only [lines, hc, if_false, List.mem_singleton] at h
        simp [h, Ne.symm hc]
      | cons d r =>
        rw [lines, if_neg hc] at h
        split at h
        · exact ih h
        · split at h
          · next hnil => exact absurd hnil (lines_ne_nil d r)
          · next l ls hl =>
            rw [hl] at ih
            rcases List.mem_cons.1 h with rfl | h
            · exact List.not_mem_cons_of_ne_of_not_mem (Ne.symm hc) (ih List.mem_cons_self)
            · exact ih (List.mem_cons_of_mem l h)

end HostTelemetry.Text
