import HostTelemetry.Kernel.Tables
import HostTelemetry.Proofs.MissingFields
import HostTelemetry.Proofs.WholeDoubles

/-!
# The usage of processors

The usage of a processor is the increase of its busy ticks in hundredths of the increase of all its
ticks, either taken as none where the ticks fell. Over columns that are whole numbers all sums are
exact, so that the usage is never negative, and is above 100 exactly if all ticks together grew
while those of idle time fell: then more ticks became busy than passed.
-/

namespace HostTelemetry

namespace Kernel

open Text (lines words)
open Decimal (WritesNatural readNatural?)
open Double (Whole)

/-! ### Ticks -/

/-- The ticks of a processor up to some moment: all of them, and those of idle time. -/
structure Ticks where
  total : Nat
  idle : Nat
deriving DecidableEq

/-- The ticks in the columns of a line: eight are counted, the fourth and fifth being idle time. -/
def Ticks.ofColumns (ns : List Nat) : Ticks :=
  ⟨(ns.take 8).sum, (ns.take 8).getD 3 0 + (ns.take 8).getD 4 0⟩

def processorName (label : List Char) : String :=
  if label = "cpu".toList then "" else String.ofList label

/-- A line of a processor with whole numbers in its columns, its name and its ticks. -/
def TicksOn (line : List Char) (name : String) (t : Ticks) : Prop :=
  ∃ label columns ns, words line = label :: columns ∧ name = processorName label ∧
    List.Forall₂ (WritesNatural (2 ^ 45)) columns ns ∧ t = .ofColumns ns

/-- Whether the columns on a line, if it is one of a processor, are whole numbers below `2 ^ 45`. -/
def WholeColumns (line : List Char) : Prop :=
  ∀ label columns, words line = label :: columns → "cpu".toList.isPrefixOf label = true →
    ∀ w ∈ columns, ∃ n, WritesNatural (2 ^ 45) w n

def WholeTicks (text : String) : Prop := ∀ line ∈ lines text.toList, WholeColumns line

def TicksIn (text : String) (name : String) (t : Ticks) : Prop :=
  ∃ line ∈ lines text.toList, TicksOn line name t

/-- Fields that give the ticks of a processor exactly. -/
structure Tallies (f : Fields) (t : Ticks) : Prop where
  busy : ∃ v, f.get? "busy_ticks" = some v ∧ Whole v.number (t.total - t.idle)
  total : ∃ v, f.get? "total_ticks" = some v ∧ Whole v.number t.total
  idle_le : t.idle ≤ t.total
  total_lt : t.total < 2 ^ 48

theorem exists_numbers {columns : List (List Char)}
    (h : ∀ w ∈ columns, ∃ n, WritesNatural (2 ^ 45) w n) :
    ∃ ns, List.Forall₂ (WritesNatural (2 ^ 45)) columns ns := by
  induction columns with
  | nil => exact ⟨[], .nil⟩
  | cons w rest ih =>
    obtain ⟨⟨n, hn⟩, hrest⟩ := List.forall_mem_cons.1 h
    obtain ⟨ns, hns⟩ := ih hrest
    exact ⟨n :: ns, .cons hn hns⟩

theorem exists_whole_values {columns : List (List Char)} {ns : List Nat}
    (h : List.Forall₂ (WritesNatural (2 ^ 45)) columns ns) :
    List.Forall₂ (fun v n => Whole v.number n) (columns.filterMap Value.read?) ns := by
  induction h with
  | nil => exact .nil
  | cons hw _ ih =>
    obtain ⟨v, hv, hwhole⟩ := Double.read?_of_writesNatural hw (by norm_num)
    rw [List.filterMap_cons_some hv]
    exact .cons hwhole ih

theorem sum_take_lt {columns : List (List Char)} {ns : List Nat}
    (h : List.Forall₂ (WritesNatural (2 ^ 45)) columns ns) : (ns.take 8).sum < 2 ^ 48 := by
  have hlt : ∀ n ∈ ns, n < 2 ^ 45 := by
    induction h with
    | nil => simp
    | cons hw _ ih =>
      obtain ⟨_, -, -, -, -, hlt⟩ := hw
      exact List.forall_mem_cons.2 ⟨hlt, ih⟩
  have hsum := List.sum_le_card_nsmul (ns.take 8) (2 ^ 45 - 1) fun n hn => by
    have := hlt n (List.mem_of_mem_take hn)
    omega
  have hlength := List.length_take_le 8 ns
  rw [smul_eq_mul] at hsum
  have hmost := Nat.mul_le_mul_right (2 ^ 45 - 1) hlength
  omega

/-- The fifth column may be missing, and counts as 0 then. -/
theorem whole_headD {values : List Value} {ns : List Nat}
    (h : List.Forall₂ (fun v n => Whole v.number n) values ns) :
    Whole (values.headD (0.0 : Float)).number (ns.getD 0 0) ∧ ns.getD 0 0 ≤ ns.sum := by
  cases h with
  | nil => exact ⟨.zero, le_rfl⟩
  | @cons v n values ns hv _ =>
    rw [List.sum_cons]
    exact ⟨hv, Nat.le_add_right n ns.sum⟩

theorem processorFields_tallies {columns : List (List Char)} {ns : List Nat} {f : Fields}
    (h : List.Forall₂ (WritesNatural (2 ^ 45)) columns ns)
    (hf : processorFields? columns = some f) : Tallies f (.ofColumns ns) := by
  have hvalues := exists_whole_values (List.forall₂_take 8 h)
  have hlt := sum_take_lt h
  unfold processorFields? at hf
  unfold Ticks.ofColumns
  generalize (columns.take 8).filterMap Value.read? = values at hf hvalues
  generalize ns.take 8 = counted at hlt hvalues ⊢
  split at hf
  · next a b c idle rest =>
    rw [Option.some.injEq] at hf
    subst hf
    have htotal := Double.whole_sum hvalues (by omega)
    obtain ⟨na, _, -, hfromSecond, rfl⟩ := List.forall₂_cons_left_iff.1 hvalues
    obtain ⟨nb, _, -, hfromThird, rfl⟩ := List.forall₂_cons_left_iff.1 hfromSecond
    obtain ⟨nc, _, -, hfromIdle, rfl⟩ := List.forall₂_cons_left_iff.1 hfromThird
    obtain ⟨ni, counted, hidle, hrest, rfl⟩ := List.forall₂_cons_left_iff.1 hfromIdle
    obtain ⟨hwait, hwaitLe⟩ := whole_headD hrest
    simp only [List.sum_cons] at hlt htotal
    have hresting : Whole (idle + rest.headD (0.0 : Float)).number (ni + counted.getD 0 0) := by
      rw [Value.number_add]
      exact hidle.add hwait (by omega)
    have hbusy : Whole (Value.sum (a :: b :: c :: idle :: rest) -
        (idle + rest.headD (0.0 : Float))).number
        (na + (nb + (nc + (ni + counted.sum))) - (ni + counted.getD 0 0)) := by
      rw [Value.number_sub]
      exact htotal.sub hresting (by omega) (by omega)
    exact {
      busy := ⟨_, by simp [Fields.get?_set], hbusy⟩
      total := ⟨_, by simp [Fields.get?_set], htotal⟩
      idle_le := show ni + counted.getD 0 0 ≤ (na :: nb :: nc :: ni :: counted).sum by
        simp only [List.sum_cons]
        omega
      total_lt := hlt }
  · cases hf

theorem processorLine_tallies {line : List Char} {e : Entry} (h : WholeColumns line)
    (he : processorLine? line = some e) : ∃ t, TicksOn line e.1 t ∧ Tallies e.2 t := by
  unfold processorLine? at he
  split at he
  · cases he
  · next label columns hwords =>
    dsimp only at he
    split at he
    · next hlabel =>
      obtain ⟨f, hf, rfl⟩ := Option.map_eq_some_iff.1 he
      obtain ⟨ns, hns⟩ := exists_numbers (h label columns hwords hlabel)
      exact ⟨_, ⟨label, columns, ns, hwords, rfl, hns, rfl⟩, processorFields_tallies hns hf⟩
    · cases he

/-! ### Usage -/

def processorSnapshots (text : String) : List Snapshot :=
  (processorTable text).map fun e => ⟨e.1, e.2⟩

theorem processorSnapshots_tallies {text : String} (h : WholeTicks text) {s : Snapshot}
    (hs : s ∈ processorSnapshots text) :
    ∃ t, TicksIn text s.instanceName t ∧ Tallies s.fields t := by
  obtain ⟨e, he, rfl⟩ := List.mem_map.1 hs
  obtain ⟨line, hline, he⟩ := List.mem_filterMap.1 he
  obtain ⟨t, hticks, htallies⟩ := processorLine_tallies (h line hline) he
  exact ⟨t, ⟨line, hline, hticks⟩, htallies⟩

theorem whole_counterDelta {b a : Float} {m n : Nat} (hb : Whole b m) (ha : Whole a n)
    (hn : n < 2 ^ 53) : Whole (counterDelta b a) (n - m) := by
  unfold counterDelta
  split
  · next hlt =>
    rw [Nat.sub_eq_zero_of_le ((ha.lt_iff hb).1 hlt).le]
    exact .zero
  · next hle =>
    rw [ha.lt_iff hb, not_lt] at hle
    exact ha.sub hb hle hn

theorem Tallies.increases {before after : Snapshot} {t t' : Ticks} (hb : Tallies before.fields t)
    (ha : Tallies after.fields t') :
    (∃ x, increase? before after "busy_ticks" = some x ∧
      Whole x (t'.total - t'.idle - (t.total - t.idle))) ∧
    ∃ x, increase? before after "total_ticks" = some x ∧ Whole x (t'.total - t.total) := by
  have hlt := ha.total_lt
  obtain ⟨b, hbefore, hbusy⟩ := hb.busy
  obtain ⟨a, hafter, hbusy'⟩ := ha.busy
  obtain ⟨c, hbefore', htotal⟩ := hb.total
  obtain ⟨d, hafter', htotal'⟩ := ha.total
  refine ⟨⟨counterDelta b.number a.number, ?_, whole_counterDelta hbusy hbusy' (by omega)⟩,
    counterDelta c.number d.number, ?_, whole_counterDelta htotal htotal' (by omega)⟩
  · simp [increase?, Snapshot.field?, Snapshot.value?, hbefore, hafter]
  · simp [increase?, Snapshot.field?, Snapshot.value?, hbefore', hafter']

/-- More than all the ticks that passed became busy just where idle ticks were taken back. -/
theorem Tallies.usage {before after : Snapshot} {t t' : Ticks} (hb : Tallies before.fields t)
    (ha : Tallies after.fields t') {window : Duration} {x : Float}
    (hx : (Derivation.deltaRatio "busy_ticks" "total_ticks").twice? before after window = some x) :
    0.0 ≤ x * 100.0 ∧ (x * 100.0 ≤ 100.0 ↔ ¬(t.total < t'.total ∧ t'.idle < t.idle)) := by
  have hidle := hb.idle_le
  have hidle' := ha.idle_le
  have hlt := ha.total_lt
  obtain ⟨⟨busy, hbusy, hwholeBusy⟩, ⟨total, htotal, hwholeTotal⟩⟩ := hb.increases ha
  rw [Derivation.twice?_deltaRatio, hbusy, htotal] at hx
  have hvalue : ratio busy total = x := Option.some.inj hx
  rw [← hvalue]
  unfold ratio
  split
  · next hpos =>
    have hgrew := (Whole.zero.lt_iff hwholeTotal).1 hpos
    obtain ⟨h0, hle⟩ := hwholeBusy.hundredths hwholeTotal (by omega) hgrew
    refine ⟨h0, hle.trans ?_⟩
    -- Busy is what is not idle: it grew by more than the total just if the idle ticks fell.
    omega
  · next hstill =>
    have hnone : ¬0 < t'.total - t.total := mt (Whole.zero.lt_iff hwholeTotal).2 hstill
    have hsmall : 0.0 ≤ (0.0 : Float) * 100.0 ∧ (0.0 : Float) * 100.0 ≤ 100.0 := by decide +kernel
    exact ⟨hsmall.1, fun _ => by omega, fun _ => hsmall.2⟩

theorem isSome_usage {before : List Snapshot} (hb : ∀ p ∈ before, ∃ t, Tallies p.fields t)
    {s : Snapshot} {t' : Ticks} (hs : Tallies s.fields t') (window : Duration) :
    (cpuSpec.matched? before window s (.deltaRatio "busy_ticks" "total_ticks")).isSome =
      cpuSpec.hasMatch before s := by
  rw [← FamilySpec.isSome_previous?]
  unfold FamilySpec.matched?
  cases hprevious : cpuSpec.previous? before s with
  | none => rfl
  | some p =>
    obtain ⟨t, ht⟩ := hb p (List.mem_reverse.1 (List.mem_of_find?_eq_some hprevious))
    obtain ⟨⟨busy, hbusy, -⟩, ⟨total, htotal, -⟩⟩ := ht.increases hs
    show ((Derivation.deltaRatio "busy_ticks" "total_ticks").twice? p s window).isSome = true
    rw [Derivation.twice?_deltaRatio, hbusy, htotal]
    rfl

/-- Every processor of both reads has a usage. -/
theorem series_usage {before after : List Snapshot} (hb : ∀ p ∈ before, ∃ t, Tallies p.fields t)
    (ha : ∀ s ∈ after, ∃ t, Tallies s.fields t) (window : Duration) :
    (deriveCumulative cpuSpec before after window).map Row.series =
      (after.filter (cpuSpec.hasMatch before)).map fun s => (s.instanceName, "CPU Usage %") := by
  rw [FamilySpec.deriveCumulative_eq, cpuSpec.mergeMembers_of_none rfl,
    cpuSpec.series_contributions_of_single rfl fun _ => rfl]
  have hkept : after.filter (fun s =>
      (cpuSpec.matched? before window s (.deltaRatio "busy_ticks" "total_ticks")).isSome) =
        after.filter (cpuSpec.hasMatch before) := by
    refine List.filter_congr fun s hs => ?_
    obtain ⟨t', ht'⟩ := ha s hs
    exact isSome_usage hb ht' window
  rw [← hkept]

theorem usage_of_mem {before after : String} (hbefore : WholeTicks before)
    (hafter : WholeTicks after) {window : Duration} {row : Row}
    (hrow : row ∈ deriveCumulative cpuSpec (processorSnapshots before) (processorSnapshots after)
      window) :
    0.0 ≤ row.value ∧ ∃ t t', TicksIn before row.instanceName t ∧
      TicksIn after row.instanceName t' ∧
      (row.value ≤ 100.0 ↔ ¬(t.total < t'.total ∧ t'.idle < t.idle)) := by
  rw [FamilySpec.deriveCumulative_eq, cpuSpec.mergeMembers_of_none rfl] at hrow
  obtain ⟨s, hs, m, hm, x, hx, rfl⟩ := cpuSpec.mem_contributions hrow
  obtain ⟨p, hp, hx⟩ := Option.bind_eq_some_iff.1 hx
  have hmem : p ∈ processorSnapshots before := List.mem_reverse.1 (List.mem_of_find?_eq_some hp)
  have hname : p.instanceName = s.instanceName :=
    cpuSpec.memberKey_instance (cpuSpec.memberKey_of_previous? hp)
  obtain ⟨t, hticks, htallies⟩ := processorSnapshots_tallies hbefore hmem
  obtain ⟨t', hticks', htallies'⟩ := processorSnapshots_tallies hafter hs
  obtain rfl := List.mem_singleton.1 hm
  obtain ⟨h0, hle⟩ := htallies.usage htallies' hx
  exact ⟨h0, t, t', hname ▸ hticks, hticks', hle⟩

/-- Every processor of both reads has a usage. It is not negative, and is at most 100 unless all its
ticks together grew between the reads and its idle ones fell. -/
theorem usage_le_hundred_iff {before after : String} (hbefore : WholeTicks before)
    (hafter : WholeTicks after) (window : Duration) :
    let rows :=
      deriveCumulative cpuSpec (processorSnapshots before) (processorSnapshots after) window
    let matched := (processorSnapshots after).filter (cpuSpec.hasMatch (processorSnapshots before))
    rows.map Row.series = matched.map (fun s => (s.instanceName, "CPU Usage %")) ∧
      ∀ row ∈ rows, 0.0 ≤ row.value ∧ ∃ t t', TicksIn before row.instanceName t ∧
        TicksIn after row.instanceName t' ∧
        (row.value ≤ 100.0 ↔ ¬(t.total < t'.total ∧ t'.idle < t.idle)) := by
  have htallies {text : String} (h : WholeTicks text) :
      ∀ s ∈ processorSnapshots text, ∃ t, Tallies s.fields t :=
    fun s hs => (processorSnapshots_tallies h hs).imp fun _ ht => ht.2
  exact ⟨series_usage (htallies hbefore) (htallies hafter) window,
    fun row hrow => usage_of_mem hbefore hafter hrow⟩

def isWholeTicks (text : String) : Bool :=
  (lines text.toList).all fun line =>
    match words line with
    | [] => true
    | label :: columns =>
      !"cpu".toList.isPrefixOf label || columns.all fun w => (readNatural? (2 ^ 45) w).isSome

theorem wholeTicks_of_isWholeTicks {text : String} (h : isWholeTicks text = true) :
    WholeTicks text := by
  intro line hline label columns hwords hlabel w hw
  have hall := List.all_eq_true.1 h line hline
  rw [hwords] at hall
  dsimp only at hall
  rw [hlabel, Bool.not_true, Bool.false_or, List.all_eq_true] at hall
  obtain ⟨n, hn⟩ := Option.isSome_iff_exists.1 (hall w hw)
  exact ⟨n, Decimal.readNatural?_eq_some_iff.1 hn⟩

def ticksBefore : String := "cpu 50 0 0 500 10\ncpu1 20 0 0 7\n"

def ticksAfter : String := "intr 5 -1\ncpu1 20 0 0 9\ncpu 190 0 0 460 10\n"

/-- Of 100 ticks that passed, and of 40 that are taken back from idle time, 140 became busy. -/
theorem usage_le_hundred_iff_taken_back :
    WholeTicks ticksBefore ∧ WholeTicks ticksAfter ∧
      deriveCumulative cpuSpec (processorSnapshots ticksBefore) (processorSnapshots ticksAfter)
          .zero = [⟨"cpu1", "CPU Usage %", 0⟩, ⟨"", "CPU Usage %", 140⟩] ∧
      ∃ t t', TicksIn ticksBefore "" t ∧ TicksIn ticksAfter "" t' ∧
        ((140 : Float) ≤ 100.0 ↔ ¬(t.total < t'.total ∧ t'.idle < t.idle)) := by
  have hbefore : WholeTicks ticksBefore := wholeTicks_of_isWholeTicks (by decide +kernel)
  have hafter : WholeTicks ticksAfter := wholeTicks_of_isWholeTicks (by decide +kernel)
  have hrows : deriveCumulative cpuSpec (processorSnapshots ticksBefore)
      (processorSnapshots ticksAfter) .zero =
        [⟨"cpu1", "CPU Usage %", 0⟩, ⟨"", "CPU Usage %", 140⟩] := by
    decide +kernel
  have hall := (usage_le_hundred_iff hbefore hafter .zero).2
  rw [hrows] at hall
  exact ⟨hbefore, hafter, hrows, (hall ⟨"", "CPU Usage %", 140⟩ (by simp)).2⟩

/-- A usage of 500: 10 ticks passed, and 50 became busy because 40 were taken back. -/
theorem not_usage_le_hundred :
    ¬∀ before after : String, WholeTicks before → WholeTicks after → ∀ window : Duration,
      ∀ row ∈ deriveCumulative cpuSpec (processorSnapshots before) (processorSnapshots after)
        window, 0.0 ≤ row.value ∧ row.value ≤ 100.0 := by
  intro h
  have hall := h "cpu 50 0 0 50\n" "cpu 100 0 0 10\n"
    (wholeTicks_of_isWholeTicks (by decide +kernel))
    (wholeTicks_of_isWholeTicks (by decide +kernel)) (.ofSeconds 1)
  have hrows : deriveCumulative cpuSpec (processorSnapshots "cpu 50 0 0 50\n")
      (processorSnapshots "cpu 100 0 0 10\n") (.ofSeconds 1) = [⟨"", "CPU Usage %", 500⟩] := by
    decide +kernel
  rw [hrows] at hall
  have hle := (hall _ (List.mem_singleton.2 rfl)).2
  revert hle
  decide +kernel

end Kernel

end HostTelemetry
