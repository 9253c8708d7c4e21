import HostTelemetry.Kernel.Tables
import HostTelemetry.Proofs.ByteSlices
import HostTelemetry.Proofs.NumberWords

/-!
# The line of a process

The name of a command stands between the first opening and the last closing parenthesis of its line.
It may hold any characters, parentheses too: no text in front of the name has an opening one, and
none behind it a closing one. So each line has at most one name and one sum of processor times, and
they are what is read off it. The name and the text behind it may as well be cut out by the
positions of the two parentheses in bytes.
-/

namespace HostTelemetry.Kernel

open Text (words cutFirst cutLast slice? FirstAt LastAt IsWord isBlank)
open Decimal (natDigits intDigits natText countValue)

/-- The two processor times among the words behind a name, and their sum. -/
def SumsTimes (behind : List Char) (ticks : Value) : Prop :=
  ∃ a b user system, (words behind)[11]? = some a ∧ (words behind)[12]? = some b ∧
    Value.read? a = some user ∧ Value.read? b = some system ∧ ticks = user + system

/-- A line with a name between parentheses. -/
def WritesProcess (text name : String) (ticks : Value) : Prop :=
  ∃ front behind : String, text = front ++ "(" ++ name ++ ")" ++ behind ∧ '(' ∉ front.toList ∧
    ')' ∉ behind.toList ∧ SumsTimes behind.toList ticks

/-- The sum of the processor times behind a name. -/
def times? (behind : List Char) : Option Value := do
  let user ← (words behind)[11]?.bind Value.read?
  let system ← (words behind)[12]?.bind Value.read?
  some (user + system)

variable {text name : String} {ticks : Value} {a b c d : List Char}

theorem times?_eq_some_iff {behind : List Char} :
    times? behind = some ticks ↔ SumsTimes behind ticks := by
  simp only [times?, SumsTimes, Option.bind_eq_bind, Option.bind_eq_some_iff, Option.some.injEq]
  constructor
  · rintro ⟨user, ⟨a, ha, huser⟩, system, ⟨b, hb, hsystem⟩, rfl⟩
    exact ⟨a, b, user, system, ha, hb, huser, hsystem, rfl⟩
  · rintro ⟨a, b, user, system, ha, hb, huser, hsystem, rfl⟩
    exact ⟨user, ⟨a, ha, huser⟩, system, ⟨b, hb, hsystem⟩, rfl⟩

/-! ### The name -/

theorem processStat?_eq_bind (text : String) :
    processStat? text = (cutFirst '(' text.toList).bind fun p => (cutLast ')' p.2).bind fun q =>
      (times? q.2).map fun ticks => (String.ofList q.1, ticks) := by
  simp only [processStat?, times?, Option.bind_eq_bind, Option.map_bind, Function.comp_def,
    Option.map_some]

/-- A name is read between the two parentheses if they are in this order. -/
theorem processStat?_between (ha : '(' ∉ a) (hd : ')' ∉ d) (name : List Char)
    (htext : text.toList = a ++ '(' :: (name ++ ')' :: d)) :
    processStat? text = (times? d).map fun ticks => (String.ofList name, ticks) := by
  rw [processStat?_eq_bind, htext, Text.cutFirst_append ha, Option.bind_some,
    Text.cutLast_append name hd, Option.bind_some]

theorem processStat?_eq_some_iff :
    processStat? text = some (name, ticks) ↔ WritesProcess text name ticks := by
  constructor
  · intro h
    rw [processStat?_eq_bind] at h
    obtain ⟨⟨front, rest⟩, hfirst, h⟩ := Option.bind_eq_some_iff.1 h
    obtain ⟨⟨between, behind⟩, hlast, h⟩ := Option.bind_eq_some_iff.1 h
    obtain ⟨ticks', hticks, hpair⟩ := Option.map_eq_some_iff.1 h
    obtain ⟨rfl, rfl⟩ := Prod.mk.inj hpair
    obtain ⟨htext, hfront⟩ := Text.cutFirst_eq_some_iff.1 hfirst
    obtain ⟨hrest, hbehind⟩ := Text.cutLast_eq_some_iff.1 hlast
    refine ⟨String.ofList front, String.ofList behind, ?_, by simpa using hfront,
      by simpa using hbehind, times?_eq_some_iff.1 (by simpa using hticks)⟩
    apply String.toList_injective
    rw [htext]
    dsimp only at hrest
    rw [hrest]
    simp
  · rintro ⟨front, behind, rfl, hfront, hbehind, hsum⟩
    rw [processStat?_between hfront hbehind name.toList (by simp), times?_eq_some_iff.2 hsum,
      Option.map_some, String.ofList_toList]

/-! ### Positions in bytes -/

/-- The first opening and the last closing parenthesis stand in one order or in the other. -/
theorem marks_cases (h : a ++ '(' :: b = c ++ ')' :: d) :
    (∃ name, b = name ++ ')' :: d ∧ c = a ++ '(' :: name) ∨
      ∃ between, a = c ++ ')' :: between ∧ d = between ++ '(' :: b := by
  rcases List.append_eq_append_iff.1 h with ⟨m, hc, hb⟩ | ⟨m, ha, hd⟩
  · cases m with
    | nil => simp at hb
    | cons e m =>
      obtain ⟨rfl, rfl⟩ := List.cons.inj hb
      exact .inl ⟨m, rfl, hc⟩
  · cases m with
    | nil => simp at hd
    | cons e m =>
      obtain ⟨rfl, rfl⟩ := List.cons.inj hd
      exact .inr ⟨m, ha, rfl⟩

theorem slice?_name {name : List Char} (h : text.toList = a ++ '(' :: (name ++ ')' :: d)) :
    slice? text ((String.ofList a).utf8ByteSize + 1)
      (String.ofList (a ++ '(' :: name)).utf8ByteSize = some (String.ofList name) := by
  have hslice := Text.slice?_of_toList (a := a ++ ['(']) (m := name) (b := ')' :: d)
    (by simpa using h)
  rwa [Text.utf8ByteSize_concat, List.append_assoc, List.singleton_append] at hslice

/-- What stands behind the last closing parenthesis reaches up to the end. -/
theorem slice?_behind (h : text.toList = c ++ ')' :: d) :
    slice? text ((String.ofList c).utf8ByteSize + 1) text.utf8ByteSize =
      some (String.ofList d) := by
  have hslice := Text.slice?_of_toList (a := c ++ [')']) (m := d) (b := []) (by simpa using h)
  have hall : c ++ [')'] ++ d = text.toList := by simpa using h.symm
  rwa [Text.utf8ByteSize_concat, hall, String.ofList_toList] at hslice

section Positions

variable {first last : Nat} (hfirst : FirstAt '(' text first) (hlast : LastAt ')' text last)
include hfirst hlast

/-- The name can be cut out unless the two parentheses are in the wrong order. -/
theorem isSome_slice?_name : (slice? text (first + 1) last).isSome = true ↔ first < last := by
  obtain ⟨a, b, hopen, -, rfl⟩ := hfirst
  obtain ⟨c, d, hclose, -, rfl⟩ := hlast
  have hstart := Text.isValid_of_toList (hopen.trans (List.append_cons a '(' b))
  rw [Text.utf8ByteSize_concat] at hstart
  rw [Text.isSome_slice?]
  exact ⟨fun h => h.1, fun h => ⟨h, hstart, Text.isValid_of_toList hclose⟩⟩

theorem processStat?_eq_slices :
    processStat? text = (slice? text (first + 1) last).bind fun name =>
      (slice? text (last + 1) text.utf8ByteSize).bind fun behind =>
        (times? behind.toList).map fun ticks => (name, ticks) := by
  have hsome := isSome_slice?_name hfirst hlast
  obtain ⟨a, b, hopen, ha, rfl⟩ := hfirst
  obtain ⟨c, d, hclose, hd, rfl⟩ := hlast
  rcases marks_cases (hopen.symm.trans hclose) with ⟨name, rfl, rfl⟩ | ⟨between, rfl, rfl⟩
  · rw [processStat?_between ha hd name hopen, slice?_behind hclose, slice?_name hopen,
      Option.bind_some, Option.bind_some, String.toList_ofList]
  · -- The closing one stands first, and there is no other behind the opening one.
    have hb : ')' ∉ b := fun hb => hd (by simp [hb])
    have hafter : (String.ofList c).utf8ByteSize <
        (String.ofList (c ++ ')' :: between)).utf8ByteSize := by
      rw [List.append_cons, String.ofList_append, String.utf8ByteSize_append,
        Text.utf8ByteSize_concat]
      have hbyte : (1 : Nat) ≤ ')'.utf8Size := by decide
      omega
    rw [Option.not_isSome_iff_eq_none.1 (fun h => absurd (hsome.1 h) (by omega)), Option.bind_none,
      processStat?_eq_bind, hopen, Text.cutFirst_append ha, Option.bind_some,
      Text.cutLast_eq_none_iff.2 hb, Option.bind_none]

end Positions

/-! ### Lines of the kernel -/

/-- A process as the kernel tells of it besides its name: its state is a letter, and then there are
numbers, the eleventh and twelfth of them being the processor times. -/
structure ProcessRecord where
  pid : Nat
  state : Char
  identity : List Int
  userTime : Nat
  systemTime : Nat
  further : List Int
  isBlank_state : isBlank state = false := by decide
  state_ne : state ≠ ')' := by decide
  length_identity : identity.length = 10 := by decide

namespace ProcessRecord

variable (r : ProcessRecord)

def columns : List (List Char) :=
  [r.state] :: (r.identity.map intDigits ++
    natDigits r.userTime :: natDigits r.systemTime :: r.further.map intDigits)

/-- What stands behind the name: the columns, each behind a space, and the end of the line. -/
def tail : List Char := r.columns.flatMap (' ' :: ·) ++ ['\n']

/-- The line of the process with a name. -/
def line (name : String) : String := natText r.pid ++ " (" ++ name ++ ")" ++ String.ofList r.tail

theorem forall_mem_columns {p : List Char → Prop} (hstate : p [r.state])
    (hnumber : ∀ i, p (intDigits i)) : ∀ w ∈ r.columns, p w := by
  refine List.forall_mem_cons.2 ⟨hstate, List.forall_mem_append.2 ⟨?_, ?_⟩⟩
  · exact List.forall_mem_map.2 fun i _ => hnumber i
  · exact List.forall_mem_cons.2 ⟨hnumber r.userTime, List.forall_mem_cons.2
      ⟨hnumber r.systemTime, List.forall_mem_map.2 fun i _ => hnumber i⟩⟩

theorem words_tail : words r.tail = r.columns := by
  have hwords : ∀ w ∈ r.columns, IsWord w :=
    r.forall_mem_columns ⟨by simp, by simpa using r.isBlank_state⟩ Decimal.isWord_intDigits
  rw [tail, Text.words_concat_blank (by decide)]
  exact (Text.laidOut_flatMap hwords).words_eq

theorem not_mem_tail : ')' ∉ r.tail := by
  have hcolumns : ∀ w ∈ r.columns, ')' ∉ w := by
    refine r.forall_mem_columns (by simpa using r.state_ne.symm) fun i hmem => ?_
    have hchar := Decimal.isNumberChar_of_isNumber (Decimal.isNumber_intDigits i) _ hmem
    revert hchar
    decide
  simpa [tail] using hcolumns

theorem columns_times : r.columns[11]? = some (natDigits r.userTime) ∧
    r.columns[12]? = some (natDigits r.systemTime) := by
  constructor <;> simp [columns, List.getElem?_append, r.length_identity]

theorem sumsTimes_tail : SumsTimes r.tail (countValue r.userTime + countValue r.systemTime) := by
  obtain ⟨huser, hsystem⟩ := r.columns_times
  refine ⟨_, _, _, _, ?_, ?_, Decimal.read?_natDigits _, Decimal.read?_natDigits _, rfl⟩
  · rw [r.words_tail, huser]
  · rw [r.words_tail, hsystem]

theorem processStat?_line (name : String) :
    processStat? (r.line name) = some (name, countValue r.userTime + countValue r.systemTime) := by
  have hopen : '(' ∉ natDigits r.pid := fun hmem => by
    have hdigit := Decimal.isDigit_of_mem_natDigits hmem
    revert hdigit
    decide
  refine processStat?_eq_some_iff.2
    ⟨natText r.pid ++ " ", String.ofList r.tail, ?_, ?_, ?_, ?_⟩
  · rw [line, show " (" = " " ++ "(" from rfl, ← String.append_assoc]
  · simpa [natText] using hopen
  · simpa using r.not_mem_tail
  · simpa using r.sumsTimes_tail

end ProcessRecord

theorem whole_countValue_add {m n : Nat} (h : m + n < 2 ^ 53) :
    Double.Whole (countValue m + countValue n).number (m + n) := by
  rw [Value.number_add]
  exact (Double.whole_toDouble (by omega)).add (Double.whole_toDouble (by omega)) h

/-- A name and a sum of times are read off a text exactly if the name stands in it between an
opening parenthesis with no other in front and a closing one with no other behind, and the two
times behind it are numbers with this sum. It is the same to cut the text at the positions of the
two parentheses in bytes: no cut goes through a character or behind the end, and the name is cut out
unless they are in the wrong order. So a line of the kernel gives back any name, and the sum of the
two times, exactly where it is below `2 ^ 53`. -/
theorem process_read_iff_written :
    (∀ (text name : String) (ticks : Value),
      processStat? text = some (name, ticks) ↔ WritesProcess text name ticks) ∧
    (∀ (text : String) (first last : Nat), FirstAt '(' text first → LastAt ')' text last →
      ((slice? text (first + 1) last).isSome = true ↔ first < last) ∧
      (slice? text (last + 1) text.utf8ByteSize).isSome = true ∧
      processStat? text = (slice? text (first + 1) last).bind fun name =>
        (slice? text (last + 1) text.utf8ByteSize).bind fun behind =>
          (times? behind.toList).map fun ticks => (name, ticks)) ∧
    ∀ (r : ProcessRecord) (name : String), ∃ ticks,
      processStat? (r.line name) = some (name, ticks) ∧
      ticks = countValue r.userTime + countValue r.systemTime ∧
      (r.userTime + r.systemTime < 2 ^ 53 →
        Double.Whole ticks.number (r.userTime + r.systemTime)) := by
  refine ⟨fun _ _ _ => processStat?_eq_some_iff, fun text first last hfirst hlast => ?_,
    fun r name => ?_⟩
  · refine ⟨isSome_slice?_name hfirst hlast, ?_, processStat?_eq_slices hfirst hlast⟩
    obtain ⟨c, d, hclose, -, rfl⟩ := hlast
    rw [slice?_behind hclose, Option.isSome_some]
  · exact ⟨_, r.processStat?_line name, rfl, whole_countValue_add⟩

/-- A name of parentheses, a line feed and a letter of two bytes, and parentheses in the wrong
order. -/
theorem process_read_iff_written_odd_name :
    (∃ ticks, processStat? "7 (a) (b\n é)) S -1 -1 -1 -1 -1 -1 -1 -1 -1 -1 5 8 0\n" =
      some ("a) (b\n é)", ticks) ∧ Double.Whole ticks.number 13) ∧
    FirstAt '(' ")é(" 3 ∧ LastAt ')' ")é(" 0 ∧ slice? ")é(" 4 0 = none ∧
    processStat? ")é(" = none := by
  obtain ⟨-, hslices, hline⟩ := process_read_iff_written
  have hfirst : FirstAt '(' ")é(" 3 := ⟨[')', 'é'], [], rfl, by decide, by decide⟩
  have hlast : LastAt ')' ")é(" 0 := ⟨[], ['é', '('], rfl, by decide, by decide⟩
  have hnone : slice? ")é(" 4 0 = none := by
    rw [← Option.not_isSome_iff_eq_none, (hslices _ _ _ hfirst hlast).1]
    decide
  refine ⟨?_, hfirst, hlast, hnone, ?_⟩
  · obtain ⟨ticks, hread, -, hwhole⟩ := hline ⟨7, 'S', List.replicate 10 (-1), 5, 8, [0],
      by decide, by decide, by decide⟩ "a) (b\n é)"
    exact ⟨ticks, hread, hwhole (by decide)⟩
  · rw [(hslices _ _ _ hfirst hlast).2.2, hnone, Option.bind_none]

end HostTelemetry.Kernel
