import HostTelemetry.Proofs.ColumnTables
import HostTelemetry.Proofs.ProcessorUsage
import Mathlib.Data.Nat.BitIndices

/-!
# Columns of processors

The ticks of a processor are counted by rank. Of the first eight columns behind its label those that
are numbers make up the total, and the fourth and the fifth of these numbers are idle time. So a
column that is no number moves those behind it up. The fourth and the fifth column are idle time,
whatever the numbers are, exactly if the first three columns are numbers, and the next two are
numbers as well or have no number behind them.
-/

namespace HostTelemetry

theorem Value.zero_add_comm (v : Value) :
    ((0.0 : Float) : Value) + v = v + ((0.0 : Float) : Value) := by
  have hnumber : (0.0 : Float).isNaN = false := by decide +kernel
  show combine (· + ·) _ _ = combine (· + ·) _ _
  simp only [combine, hnumber, Double.float_add_comm v.number 0.0]
  cases v.number.isNaN <;> rfl

namespace Kernel

open Text (words lines IsWord LaidOut)
open Decimal (natDigits countValue)
open Double (Whole)

/-- The line of a processor, with its name and the cells behind its label. -/
def ProcessorLine (line : List Char) (name : String) (cells : List (List Char)) : Prop :=
  ∃ label, words line = label :: cells ∧ "cpu".toList <+: label ∧ name = processorName label

/-- The number in a column, counted from 0. -/
def numberAt? (cells : List (List Char)) (i : Nat) : Option Value := cells[i]?.bind Value.read?

def isNumberAt (cells : List (List Char)) (i : Nat) : Bool := (numberAt? cells i).isSome

/-- The columns that are numbers, of the eight that count. -/
def numbered (cells : List (List Char)) : List Nat := (List.range 8).filter (isNumberAt cells)

def totalTicks (cells : List (List Char)) : Value :=
  Value.sum ((List.range 8).filterMap (numberAt? cells))

/-- The ticks in a column, none if the column is missing or is no number. -/
def ticksAt (cells : List (List Char)) (column : Option Nat) : Value :=
  (column.bind (numberAt? cells)).getD (0.0 : Float)

/-- The ticks in the first two of some columns. -/
def idleTicks (cells : List (List Char)) (columns : List Nat) : Value :=
  ticksAt cells columns[0]? + ticksAt cells columns[1]?

/-- The columns that count as idle time: the fourth and the fifth of those that are numbers. -/
def idleColumns (cells : List (List Char)) : List Nat := ((numbered cells).drop 3).take 2

/-- All fields of a processor: its ticks, and those of them that are not idle. -/
structure Counted (fields : Fields) (cells : List (List Char)) (idle : Value) : Prop where
  total : fields.get? "total_ticks" = some (totalTicks cells)
  busy : fields.get? "busy_ticks" = some (totalTicks cells - idle)
  only : ∀ field v, fields.get? field = some v → field = "total_ticks" ∨ field = "busy_ticks"

/-- No bad column moves another one: the first three are numbers, and the next two are numbers as
well unless no number follows them. -/
structure InPlace (cells : List (List Char)) : Prop where
  front : ∀ i < 3, isNumberAt cells i = true
  behind : (isNumberAt cells 3 = true ∧ isNumberAt cells 4 = true) ∨
    ∀ i, 5 ≤ i → i < 8 → isNumberAt cells i = false

/-- Counting the fourth and the fifth column as idle is right on every line with numbers in some
columns, whatever the numbers are. -/
def CountedByPlace (columns : List Nat) : Prop :=
  ∀ line name cells, '\n' ∉ line → ProcessorLine line name cells → numbered cells = columns →
    ∃ fields, processorTable (String.ofList line) = [(name, fields)] ∧
      Counted fields cells (idleTicks cells [3, 4])

/-! ### Fields by rank -/

variable {line : List Char} {name : String} {fields : Fields} {cells : List (List Char)}

theorem filterMap_take_eq (cells : List (List Char)) (n : Nat) :
    (cells.take n).filterMap Value.read? = (List.range n).filterMap (numberAt? cells) := by
  induction n with
  | zero => rfl
  | succ n ih =>
    rw [List.take_add_one, List.filterMap_append, ih, List.range_succ, List.filterMap_append]
    cases hcell : cells[n]? with
    | none => simp [numberAt?, hcell]
    | some cell => cases hread : Value.read? cell <;> simp [numberAt?, hcell, hread]

/-- The number of some rank among those found is the one in the column of this rank. -/
theorem getElem?_filterMap {α β : Type} (f : α → Option β) (l : List α) (k : Nat) :
    (l.filterMap f)[k]? = (l.filter fun a => (f a).isSome)[k]?.bind f := by
  induction l generalizing k with
  | nil => rfl
  | cons a l ih =>
    cases ha : f a with
    | none => rw [List.filterMap_cons_none ha, List.filter_cons_of_neg (by simp [ha]), ih]
    | some b =>
      rw [List.filterMap_cons_some ha, List.filter_cons_of_pos (by simp [ha])]
      cases k with
      | zero => simp [ha]
      | succ k => simpa using ih k

theorem ticksAt_numbered (cells : List (List Char)) (k : Nat) :
    ticksAt cells (numbered cells)[k]? =
      ((List.range 8).filterMap (numberAt? cells))[k]?.getD (0.0 : Float) := by
  rw [getElem?_filterMap]
  rfl

theorem length_filterMap_numberAt? (cells : List (List Char)) :
    ((List.range 8).filterMap (numberAt? cells)).length = (numbered cells).length := by
  rw [List.length_filterMap_eq_countP, List.countP_eq_length_filter]
  rfl

theorem processorFields?_eq (cells : List (List Char)) : processorFields? cells =
    if (numbered cells).length < 4 then none
    else some ((Fields.empty.set "busy_ticks"
      (totalTicks cells - idleTicks cells (idleColumns cells))).set "total_ticks"
      (totalTicks cells)) := by
  have hfourth : (idleColumns cells)[0]? = (numbered cells)[3]? := by simp [idleColumns]
  have hfifth : (idleColumns cells)[1]? = (numbered cells)[4]? := by simp [idleColumns]
  rw [idleTicks, hfourth, hfifth, ticksAt_numbered, ticksAt_numbered, totalTicks,
    ← length_filterMap_numberAt?, processorFields?, filterMap_take_eq]
  generalize (List.range 8).filterMap (numberAt? cells) = values
  split
  · next a b c idle rest => cases rest <;> simp
  · next hshort =>
    rw [if_pos]
    match values, hshort with
    | [], _ => simp
    | [_], _ => simp
    | [_, _], _ => simp
    | [_, _, _], _ => simp
    | a :: b :: c :: d :: rest, hshort => exact absurd rfl (hshort a b c d rest)

theorem counted_set (cells : List (List Char)) (idle : Value) :
    Counted ((Fields.empty.set "busy_ticks" (totalTicks cells - idle)).set "total_ticks"
      (totalTicks cells)) cells idle where
  total := by simp [Fields.get?_set]
  busy := by simp [Fields.get?_set]
  only field v h := by
    rw [Fields.get?_set, Fields.get?_set] at h
    split at h
    · next hfield => exact .inl hfield.symm
    · split at h
      · next hfield => exact .inr hfield.symm
      · cases h

theorem processorLine?_eq_some_iff : processorLine? line = some (name, fields) ↔
    ∃ cells, ProcessorLine line name cells ∧ processorFields? cells = some fields := by
  unfold processorLine? ProcessorLine
  cases hwords : words line with
  | nil => simp
  | cons label columns =>
    simp only [List.isPrefixOf_iff_prefix, Option.ite_none_right_eq_some, Option.map_eq_some_iff,
      Prod.mk.injEq, List.cons.injEq]
    constructor
    · rintro ⟨hlabel, f, hf, rfl, rfl⟩
      exact ⟨columns, ⟨label, ⟨rfl, rfl⟩, hlabel, rfl⟩, hf⟩
    · rintro ⟨cells, ⟨_, ⟨rfl, rfl⟩, hlabel, rfl⟩, hf⟩
      exact ⟨hlabel, fields, hf, rfl, rfl⟩

theorem processorTable_line (hline : '\n' ∉ line) :
    processorTable (String.ofList line) = (processorLine? line).toList := by
  rw [processorTable, String.toList_ofList, filterMap_lines rfl hline]

theorem processorTable_of_line (hline : '\n' ∉ line) (h : ProcessorLine line name cells)
    (hfour : 4 ≤ (numbered cells).length) :
    ∃ fields, processorTable (String.ofList line) = [(name, fields)] ∧
      Counted fields cells (idleTicks cells (idleColumns cells)) := by
  refine ⟨_, ?_, counted_set cells _⟩
  have hfields := processorFields?_eq cells
  rw [if_neg (by omega)] at hfields
  rw [processorTable_line hline, processorLine?_eq_some_iff.2 ⟨cells, h, hfields⟩]
  rfl

/-! ### Columns in place -/

/-- A list in three parts, of which the first has at most three elements and the second at most two:
the second part is the fourth and the fifth element if it begins there, and is full or the last. -/
theorem take_drop_eq_middle_iff {α : Type} {a b c : List α} (hnodup : (a ++ b ++ c).Nodup)
    (ha : a.length ≤ 3) (hb : b.length ≤ 2) (hfour : 4 ≤ (a ++ b ++ c).length) :
    ((a ++ b ++ c).drop 3).take 2 = b ↔ a.length = 3 ∧ (b.length = 2 ∨ c = []) := by
  simp only [List.length_append] at hfour
  constructor
  · intro h
    have hlength := congrArg List.length h
    simp only [List.length_take, List.length_drop, List.length_append] at hlength
    have hfull : a.length = 3 := by
      by_contra hshort
      -- The first element of the middle part would stand in front of the fourth one as well.
      have hfourth : b[0]? = (a ++ b ++ c)[3]? := by
        have hzero := congrArg (·[0]?) h
        simpa using hzero.symm
      have hhead : (a ++ b ++ c)[a.length]? = b[0]? := by
        rw [List.append_assoc, List.getElem?_append_right le_rfl, Nat.sub_self,
          List.getElem?_append_left (by omega)]
      have hsame := (List.nodup_iff_getElem?_ne_getElem?.1 hnodup) a.length 3 (by omega)
        (by simp only [List.length_append]; omega)
      exact hsame (hhead.trans hfourth)
    refine ⟨hfull, ?_⟩
    rcases Nat.lt_or_ge b.length 2 with hlt | hge
    · exact .inr (List.eq_nil_of_length_eq_zero (by omega))
    · exact .inl (by omega)
  · rintro ⟨hfull, hb' | rfl⟩
    · rw [List.append_assoc, ← hfull, List.drop_left, ← hb', List.take_left]
    · rw [List.append_nil, ← hfull, List.drop_left, List.take_of_length_le hb]

theorem numbered_eq (cells : List (List Char)) : numbered cells =
    [0, 1, 2].filter (isNumberAt cells) ++ [3, 4].filter (isNumberAt cells) ++
      [5, 6, 7].filter (isNumberAt cells) := by
  rw [← List.filter_append, ← List.filter_append]
  rfl

theorem inPlace_iff (cells : List (List Char)) : InPlace cells ↔
    ([0, 1, 2].filter (isNumberAt cells)).length = 3 ∧
      (([3, 4].filter (isNumberAt cells)).length = 2 ∨
        [5, 6, 7].filter (isNumberAt cells) = []) := by
  have hthree : ([0, 1, 2].filter (isNumberAt cells)).length = 3 ↔
      ∀ i ∈ [0, 1, 2], isNumberAt cells i = true := List.length_filter_eq_length_iff
  have htwo : ([3, 4].filter (isNumberAt cells)).length = 2 ↔
      ∀ i ∈ [3, 4], isNumberAt cells i = true := List.length_filter_eq_length_iff
  rw [hthree, htwo, List.filter_eq_nil_iff]
  simp only [List.forall_mem_cons, List.not_mem_nil, false_implies, implies_true, and_true,
    Bool.not_eq_true]
  constructor
  · rintro ⟨hfront, hbehind⟩
    refine ⟨⟨hfront 0 (by omega), hfront 1 (by omega), hfront 2 (by omega)⟩, hbehind.imp_right ?_⟩
    intro hnone
    exact ⟨hnone 5 (by omega) (by omega), hnone 6 (by omega) (by omega),
      hnone 7 (by omega) (by omega)⟩
  · rintro ⟨⟨h0, h1, h2⟩, hbehind⟩
    refine ⟨fun i hi => ?_, hbehind.imp_right ?_⟩
    · interval_cases i <;> assumption
    · rintro ⟨h5, h6, h7⟩ i hlow hhigh
      interval_cases i <;> assumption

theorem nodup_numbered (cells : List (List Char)) : (numbered cells).Nodup :=
  List.nodup_range.filter _

theorem idleColumns_eq_iff (hfour : 4 ≤ (numbered cells).length) :
    idleColumns cells = [3, 4].filter (isNumberAt cells) ↔ InPlace cells := by
  have hnodup := nodup_numbered cells
  rw [inPlace_iff, idleColumns]
  rw [numbered_eq] at hfour hnodup ⊢
  exact take_drop_eq_middle_iff hnodup (List.length_filter_le _ _) (List.length_filter_le _ _) hfour

/-- Leaving out a column that is no number leaves its ticks out, which are none. -/
theorem idleTicks_filter (cells : List (List Char)) (i j : Nat) :
    idleTicks cells ([i, j].filter (isNumberAt cells)) = idleTicks cells [i, j] := by
  have hnone {k : Nat} (h : isNumberAt cells k = false) :
      ticksAt cells (some k) = ((0.0 : Float) : Value) := by
    have hmissing : numberAt? cells k = none := by simpa [isNumberAt] using h
    rw [ticksAt, Option.bind_some, hmissing, Option.getD_none]
  simp only [List.filter_cons, List.filter_nil]
  cases hi : isNumberAt cells i <;> cases hj : isNumberAt cells j
  case false.false =>
    show ticksAt cells none + ticksAt cells none = ticksAt cells (some i) + ticksAt cells (some j)
    rw [hnone hi, hnone hj]
    rfl
  case false.true =>
    show ticksAt cells (some j) + ticksAt cells none =
      ticksAt cells (some i) + ticksAt cells (some j)
    rw [hnone hi, Value.zero_add_comm]
    rfl
  case true.false =>
    show ticksAt cells (some i) + ticksAt cells none =
      ticksAt cells (some i) + ticksAt cells (some j)
    rw [hnone hj]
    rfl
  case true.true => rfl

theorem mem_numbered_iff {i : Nat} : i ∈ numbered cells ↔ i < 8 ∧ isNumberAt cells i = true := by
  rw [numbered, List.mem_filter, List.mem_range]

theorem isNumberAt_congr {other : List (List Char)} (h : numbered other = numbered cells) {i : Nat}
    (hi : i < 8) : isNumberAt other i = isNumberAt cells i := by
  have hmem : i ∈ numbered other ↔ i ∈ numbered cells := by rw [h]
  rw [mem_numbered_iff, mem_numbered_iff, and_iff_right hi, and_iff_right hi] at hmem
  exact Bool.eq_iff_iff.2 hmem

theorem InPlace.congr {other : List (List Char)} (hplace : InPlace cells)
    (h : numbered other = numbered cells) : InPlace other where
  front i hi := by rw [isNumberAt_congr h (by omega), hplace.front i hi]
  behind := by
    rw [isNumberAt_congr h (by omega), isNumberAt_congr h (by omega)]
    refine hplace.behind.imp_right fun hnone i hlow hhigh => ?_
    rw [isNumberAt_congr h hhigh, hnone i hlow hhigh]

theorem InPlace.counted (hplace : InPlace cells) (hfour : 4 ≤ (numbered cells).length)
    (h : Counted fields cells (idleTicks cells (idleColumns cells))) :
    Counted fields cells (idleTicks cells [3, 4]) := by
  rwa [(idleColumns_eq_iff hfour).2 hplace, idleTicks_filter] at h

/-! ### Columns that are marked

A sum of distinct powers of two tells which of them are in it. So on a line with such ticks the busy
ones tell which columns were taken as idle time. -/

/-- Cells with numbers in some columns, each the power of two that belongs to its column. -/
def markedCells (p : Nat → Bool) : List (List Char) :=
  (List.range 8).map fun i => if p i then natDigits (2 ^ i) else ['x']

section Marked

variable {p : Nat → Bool} {columns : List Nat}

theorem numberAt?_markedCells {i : Nat} (hi : i < 8) :
    numberAt? (markedCells p) i = if p i then some (countValue (2 ^ i)) else none := by
  have hletter : Value.read? ['x'] = none := rfl
  rw [numberAt?, markedCells, List.getElem?_map, List.getElem?_range hi, Option.map_some,
    Option.bind_some]
  split
  · exact Decimal.read?_natDigits _
  · exact hletter

theorem numbered_markedCells : numbered (markedCells p) = (List.range 8).filter p := by
  refine List.filter_congr fun i hi => ?_
  rw [isNumberAt, numberAt?_markedCells (List.mem_range.1 hi)]
  cases p i <;> rfl

theorem isWord_markedCells : ∀ w ∈ markedCells p, IsWord w := by
  refine List.forall_mem_map.2 fun i _ => ?_
  split
  · exact Decimal.isWord_of_value (Decimal.read?_natDigits _)
  · decide

theorem whole_mark {i : Nat} (hi : i < 8) : Whole (countValue (2 ^ i)).number (2 ^ i) :=
  Double.whole_toDouble (Nat.pow_lt_pow_right one_lt_two (by omega))

theorem whole_marks {l : List Nat} (hl : ∀ i ∈ l, i < 8) :
    List.Forall₂ (fun v n => Whole v.number n) (l.filterMap (numberAt? (markedCells p)))
      ((l.filter p).map (2 ^ ·)) := by
  induction l with
  | nil => exact .nil
  | cons i l ih =>
    obtain ⟨hi, hrest⟩ := List.forall_mem_cons.1 hl
    have hnumber := numberAt?_markedCells (p := p) hi
    cases hp : p i with
    | false =>
      rw [hp, if_neg Bool.false_ne_true] at hnumber
      rw [List.filterMap_cons_none hnumber, List.filter_cons_of_neg (by simp [hp])]
      exact ih hrest
    | true =>
      rw [hp, if_pos rfl] at hnumber
      rw [List.filterMap_cons_some hnumber, List.filter_cons_of_pos hp, List.map_cons]
      exact .cons (whole_mark hi) (ih hrest)

/-- All marks together are below `2 ^ 8`. -/
theorem sum_marks_lt : ((numbered (markedCells p)).map (2 ^ ·)).sum < 2 ^ 53 := by
  rw [numbered_markedCells]
  have hle : (((List.range 8).filter p).map (2 ^ ·)).sum ≤ ((List.range 8).map (2 ^ ·)).sum :=
    (List.filter_sublist.map _).sum_le_sum fun _ _ => Nat.zero_le _
  have hall : ((List.range 8).map (2 ^ ·)).sum = 255 := rfl
  omega

theorem whole_totalTicks : Whole (totalTicks (markedCells p)).number
    ((numbered (markedCells p)).map (2 ^ ·)).sum := by
  have hlt := sum_marks_lt (p := p)
  rw [numbered_markedCells] at hlt ⊢
  exact Double.whole_sum (whole_marks fun i hi => List.mem_range.1 hi) hlt

theorem ticksAt_markedCells {i : Nat} (hi : i ∈ numbered (markedCells p)) :
    ticksAt (markedCells p) (some i) = countValue (2 ^ i) := by
  obtain ⟨hlt, hnumber⟩ := mem_numbered_iff.1 hi
  rw [isNumberAt, numberAt?_markedCells hlt] at hnumber
  rw [ticksAt, Option.bind_some, numberAt?_markedCells hlt]
  cases hp : p i with
  | false => simp [hp] at hnumber
  | true => rfl

theorem whole_idleTicks (h : columns ⊆ numbered (markedCells p)) (htwo : columns.length ≤ 2) :
    Whole (idleTicks (markedCells p) columns).number (columns.map (2 ^ ·)).sum := by
  have hmark {i : Nat} (hi : i ∈ columns) :
      Whole (ticksAt (markedCells p) (some i)).number (2 ^ i) := by
    rw [ticksAt_markedCells (h hi)]
    exact whole_mark (mem_numbered_iff.1 (h hi)).1
  have hsmall {i : Nat} (hi : i ∈ columns) : 2 ^ i < 2 ^ 8 :=
    Nat.pow_lt_pow_right one_lt_two (mem_numbered_iff.1 (h hi)).1
  rw [idleTicks, Value.number_add]
  match columns, htwo with
  | [], _ => exact Whole.zero.add .zero (by norm_num)
  | [i], _ =>
    have hi := hsmall (i := i) (by simp)
    have hsum := (hmark (i := i) (by simp)).add Whole.zero (by omega)
    exact hsum
  | [i, j], _ =>
    have hi := hsmall (i := i) (by simp)
    have hj := hsmall (i := j) (by simp)
    simpa using (hmark (i := i) (by simp)).add (hmark (i := j) (by simp)) (by omega)

/-- Columns are known from the sum of their marks. -/
theorem eq_of_sum_marks {k l : List Nat} (hk : k.Sublist (numbered (markedCells p)))
    (hl : l.Sublist (numbered (markedCells p)))
    (h : (k.map (2 ^ ·)).sum = (l.map (2 ^ ·)).sum) : k = l := by
  have hsorted {l : List Nat} (hl : l.Sublist (numbered (markedCells p))) : l.SortedLT :=
    (List.pairwise_lt_range.sublist (hl.trans List.filter_sublist)).sortedLT
  rw [← Nat.bitIndices_sum_map_two_pow (hsorted hk), h,
    Nat.bitIndices_sum_map_two_pow (hsorted hl)]

theorem idleColumns_eq_of_busy {k l : List Nat} (hk : k.Sublist (numbered (markedCells p)))
    (hl : l.Sublist (numbered (markedCells p))) (hk2 : k.length ≤ 2) (hl2 : l.length ≤ 2)
    (h : totalTicks (markedCells p) - idleTicks (markedCells p) k =
      totalTicks (markedCells p) - idleTicks (markedCells p) l) : k = l := by
  have hbusy {l : List Nat} (hl : l.Sublist (numbered (markedCells p))) (hl2 : l.length ≤ 2) :
      (l.map (2 ^ ·)).sum ≤ ((numbered (markedCells p)).map (2 ^ ·)).sum ∧
      Whole (totalTicks (markedCells p) - idleTicks (markedCells p) l).number
        (((numbered (markedCells p)).map (2 ^ ·)).sum - (l.map (2 ^ ·)).sum) := by
    have hle := (hl.map (2 ^ ·)).sum_le_sum fun _ _ => Nat.zero_le _
    rw [Value.number_sub]
    exact ⟨hle, whole_totalTicks.sub (whole_idleTicks hl.subset hl2) hle sum_marks_lt⟩
  obtain ⟨hkle, hkwhole⟩ := hbusy hk hk2
  obtain ⟨hlle, hlwhole⟩ := hbusy hl hl2
  rw [h] at hkwhole
  have hamount := hkwhole.amount_eq.symm.trans hlwhole.amount_eq
  rw [Nat.cast_inj] at hamount
  exact eq_of_sum_marks hk hl (by omega)

end Marked

theorem InPlace.countedByPlace (hplace : InPlace cells) (hfour : 4 ≤ (numbered cells).length) :
    CountedByPlace (numbered cells) := by
  intro line name other hline h hsame
  have hother : 4 ≤ (numbered other).length := hsame ▸ hfour
  obtain ⟨fields, htable, hcounted⟩ := processorTable_of_line hline h hother
  exact ⟨fields, htable, (hplace.congr hsame).counted hother hcounted⟩

/-- On the line with marks in these columns, the busy ticks tell which columns are idle. -/
theorem inPlace_of_countedByPlace (hfour : 4 ≤ (numbered cells).length)
    (h : CountedByPlace (numbered cells)) : InPlace cells := by
  have hsame : numbered (markedCells (isNumberAt cells)) = numbered cells := numbered_markedCells
  have hlaid : LaidOut ("cpu".toList :: markedCells (isNumberAt cells)) _ :=
    Text.laidOut_flatMap (List.forall_mem_cons.2 ⟨by decide +kernel, isWord_markedCells⟩)
  have hline : ProcessorLine _ "" (markedCells (isNumberAt cells)) :=
    ⟨"cpu".toList, hlaid.words_eq, List.prefix_rfl, rfl⟩
  obtain ⟨fields, htable, hplaced⟩ := h _ _ _ hlaid.feed_not_mem hline hsame
  obtain ⟨fields', htable', hranked⟩ := processorTable_of_line hlaid.feed_not_mem hline
    (hsame ▸ hfour)
  rw [htable, List.cons.injEq, Prod.mk.injEq] at htable'
  obtain ⟨⟨-, rfl⟩, -⟩ := htable'
  have hbusy := Option.some.inj (hranked.busy.symm.trans hplaced.busy)
  rw [← idleTicks_filter] at hbusy
  have hcolumns := idleColumns_eq_of_busy
    ((List.take_sublist _ _).trans (List.drop_sublist _ _)) ?_ (List.length_take_le _ _)
    (List.length_filter_le _ _) hbusy
  · have hplace := (idleColumns_eq_iff (hsame ▸ hfour)).1 hcolumns
    exact hplace.congr hsame.symm
  · rw [numbered_eq, List.append_assoc]
    exact (List.sublist_append_left _ _).trans (List.sublist_append_right _ _)

/-- Processors are read line by line. A line that starts with `cpu` gives an entry if at least four
of its first eight columns are numbers. Its total is the sum of these numbers, and all but the
fourth and the fifth of them are busy. Counting so is counting the fourth and the fifth column as
idle, whatever the numbers are, exactly if all columns are in place. -/
theorem processors_counted_by_place_iff (text : String) :
    (processorTable text =
      (lines text.toList).flatMap fun line => processorTable (String.ofList line)) ∧
    ∀ line ∈ lines text.toList,
      ((∀ name cells, ProcessorLine line name cells → (numbered cells).length < 4) →
        processorTable (String.ofList line) = []) ∧
      ∀ name cells, ProcessorLine line name cells → 4 ≤ (numbered cells).length →
        (∃ fields, processorTable (String.ofList line) = [(name, fields)] ∧
          Counted fields cells (idleTicks cells (idleColumns cells))) ∧
        (CountedByPlace (numbered cells) ↔ InPlace cells) := by
  refine ⟨filterMap_lines_alone rfl text, fun line hmem => ⟨fun hfew => ?_, ?_⟩⟩
  · rw [processorTable_line (Text.feed_not_mem_of_mem_lines hmem)]
    cases hentry : processorLine? line with
    | none => rfl
    | some e =>
      obtain ⟨cells, hcells, hfields⟩ := processorLine?_eq_some_iff.1 hentry
      rw [processorFields?_eq, if_pos (hfew _ _ hcells)] at hfields
      cases hfields
  · intro name cells h hfour
    exact ⟨processorTable_of_line (Text.feed_not_mem_of_mem_lines hmem) h hfour,
      inPlace_of_countedByPlace hfour, fun hplace => hplace.countedByPlace hfour⟩

def badThird : List (List Char) := ["1", "2", "x", "4", "5", "6", "7", "8", "9"].map String.toList

def badFifth : List (List Char) := ["1", "2", "3", "4", "x"].map String.toList

/-- A bad third column, behind which 5 and 6 are idle and not 4 and 5, too few numbers, and a bad
fifth column with nothing behind it. -/
theorem processors_counted_by_place_iff_bad_columns :
    (∃ fields, processorTable "cpu1 1 2 x 4 5 6 7 8 9" = [("cpu1", fields)] ∧
      Counted fields badThird (idleTicks badThird [4, 5])) ∧
    ¬CountedByPlace (numbered badThird) ∧
    processorTable "cpu 1 2 x 4" = [] ∧
    CountedByPlace (numbered badFifth) := by
  obtain ⟨-, hlines⟩ := processors_counted_by_place_iff
    "cpu1 1 2 x 4 5 6 7 8 9\ncpu 1 2 x 4\ncpu 1 2 3 4 x\n"
  have hall : lines "cpu1 1 2 x 4 5 6 7 8 9\ncpu 1 2 x 4\ncpu 1 2 3 4 x\n".toList =
      ["cpu1 1 2 x 4 5 6 7 8 9".toList, "cpu 1 2 x 4".toList, "cpu 1 2 3 4 x".toList] := rfl
  rw [hall, List.forall_mem_cons, List.forall_mem_cons, List.forall_mem_singleton] at hlines
  obtain ⟨⟨-, hthird⟩, ⟨hfew, -⟩, -, hfifth⟩ := hlines
  obtain ⟨hranked, hthirdPlace⟩ := hthird "cpu1" badThird ⟨"cpu1".toList, rfl, by decide, rfl⟩
    (by decide)
  obtain ⟨-, hfifthPlace⟩ := hfifth "" badFifth ⟨"cpu".toList, rfl, by decide, rfl⟩ (by decide)
  refine ⟨hranked, fun h => ?_, hfew ?_, hfifthPlace.2 ?_⟩
  · have hnumber := (hthirdPlace.1 h).front 2 (by omega)
    revert hnumber
    decide
  · rintro name cells ⟨label, hwords, -⟩
    obtain ⟨-, rfl⟩ := List.cons.inj
      (show ["cpu".toList, ['1'], ['2'], ['x'], ['4']] = label :: cells from hwords)
    decide
  · exact ⟨by decide, .inr fun i hlow hhigh => by interval_cases i <;> rfl⟩

/-- A bad fifth column makes the sixth one idle: 6 of 16 ticks are busy then, and not 12. -/
theorem not_processors_counted_by_place :
    ¬∀ line name cells fields, '\n' ∉ line → ProcessorLine line name cells →
      processorTable (String.ofList line) = [(name, fields)] →
      Counted fields cells (idleTicks cells [3, 4]) := by
  intro h
  have hline : ProcessorLine "cpu 1 2 3 4 x 6".toList ""
      (["1", "2", "3", "4", "x", "6"].map String.toList) :=
    ⟨"cpu".toList, rfl, by decide, rfl⟩
  obtain ⟨fields, htable, hranked⟩ := processorTable_of_line (by decide) hline (by decide)
  have hplaced := h _ _ _ _ (by decide) hline htable
  have hbusy := congrArg Value.number
    (Option.some.inj (hranked.busy.symm.trans hplaced.busy))
  revert hbusy
  decide +kernel

end Kernel

end HostTelemetry
