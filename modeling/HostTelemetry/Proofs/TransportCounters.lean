import HostTelemetry.Proofs.ColumnTables

/-!
# Counters of the transport layer

The counters of all protocols stand in one file. Those of a protocol are a section of two lines with
its lead, names on the first one and numbers on the second. A number belongs to the name in the same
place, so that a word that is no number, or a line that is too short, leaves names without a number
and moves none. Lines with another lead, and further ones with the same lead, are not looked at.
-/

namespace HostTelemetry

namespace Fields

/-- What is set later hides what was set before. -/
theorem get?_foldl_set (l : List (String × Value)) (f : Fields) (name : String) :
    (l.foldl (fun f e => f.set e.1 e.2) f).get? name =
      ((ofList l).get? name).or (f.get? name) := by
  induction l generalizing f with
  | nil => rfl
  | cons e l ih =>
    have hhead : ((ofList (e :: l)).get? name) =
        ((ofList l).get? name).or ((empty.set e.1 e.2).get? name) := ih _
    rw [List.foldl_cons, ih, hhead, get?_set, get?_set, Option.or_assoc]
    by_cases he : e.1 = name
    · simp [he]
    · simp [he, empty, get?, entry?]

theorem get?_ofList_cons (e : String × Value) (l : List (String × Value)) (name : String) :
    (ofList (e :: l)).get? name =
      ((ofList l).get? name).or (if e.1 = name then some e.2 else none) := by
  rw [ofList, List.foldl_cons, get?_foldl_set, get?_set]
  rfl

end Fields

namespace Kernel

open Text (words lines IsWord LaidOut fedLines withoutReturn)

/-- The lead of the lines of the section. -/
def transportLead : List Char := "Tcp:".toList

/-- The lines of a text that start with the lead. -/
def transportLines (text : String) : List (List Char) :=
  (lines text.toList).filter (transportLead.isPrefixOf ·)

/-- A name and a word that is a number, in the same place. -/
def PairedAt (names cells : List (List Char)) (i : Nat) (name : String) (v : Value) : Prop :=
  names[i]? = some name.toList ∧ ∃ cell, cells[i]? = some cell ∧ Value.read? cell = some v

/-! ### Pairs by position -/

section Pairs

variable {names cells : List (List Char)} {name : String} {v : Value}

theorem pairUp_nil_right (names : List (List Char)) : pairUp names [] = Fields.empty := by
  rw [pairUp, List.zip_nil_right]
  rfl

theorem get?_pairUp_cons (n c : List Char) (names cells : List (List Char)) (name : String) :
    (pairUp (n :: names) (c :: cells)).get? name = ((pairUp names cells).get? name).or
      (if n = name.toList then Value.read? c else none) := by
  unfold pairUp
  rw [List.zip_cons_cons, List.filterMap_cons]
  cases Value.read? c with
  | none => rw [Option.map_none, ite_self, Option.or_none]
  | some v =>
    have hname : String.ofList n = name ↔ n = name.toList :=
      ⟨fun h => h ▸ String.toList_ofList.symm, fun h => h ▸ String.ofList_toList⟩
    rw [Option.map_some, Fields.get?_ofList_cons, if_congr hname rfl rfl]

theorem not_pairedAt_nil_left {i : Nat} : ¬PairedAt [] cells i name v := fun h => by
  cases h.1

theorem not_pairedAt_nil_right {i : Nat} : ¬PairedAt names [] i name v := fun h => by
  obtain ⟨-, cell, hcell, -⟩ := h
  cases hcell

theorem pairedAt_zero {n c : List Char} :
    PairedAt (n :: names) (c :: cells) 0 name v ↔ n = name.toList ∧ Value.read? c = some v := by
  simp [PairedAt]

theorem pairedAt_succ {n c : List Char} {i : Nat} :
    PairedAt (n :: names) (c :: cells) (i + 1) name v ↔ PairedAt names cells i name v := by
  simp [PairedAt]

theorem get?_pairUp_eq_none_iff :
    (pairUp names cells).get? name = none ↔ ∀ i v, ¬PairedAt names cells i name v := by
  induction names generalizing cells with
  | nil => exact iff_of_true rfl fun _ _ => not_pairedAt_nil_left
  | cons n names ih =>
    cases cells with
    | nil =>
      rw [pairUp_nil_right]
      exact iff_of_true rfl fun _ _ => not_pairedAt_nil_right
    | cons c cells =>
      rw [get?_pairUp_cons, Option.or_eq_none_iff, ih, ite_eq_right_iff]
      constructor
      · rintro ⟨hrest, hhead⟩ i v h
        cases i with
        | zero =>
          obtain ⟨hn, hread⟩ := pairedAt_zero.1 h
          rw [hhead hn] at hread
          cases hread
        | succ i => exact hrest i v (pairedAt_succ.1 h)
      · intro h
        refine ⟨fun i v hi => h (i + 1) v (pairedAt_succ.2 hi), fun hn => ?_⟩
        rw [Option.eq_none_iff_forall_ne_some]
        exact fun v hread => h 0 v (pairedAt_zero.2 ⟨hn, hread⟩)

/-- The last number in a place of a name is its value. -/
theorem get?_pairUp_eq_some_iff : (pairUp names cells).get? name = some v ↔
    ∃ i, PairedAt names cells i name v ∧ ∀ j w, i < j → ¬PairedAt names cells j name w := by
  induction names generalizing cells with
  | nil => exact iff_of_false (by rintro ⟨⟩) fun ⟨_, h, _⟩ => not_pairedAt_nil_left h
  | cons n names ih =>
    cases cells with
    | nil =>
      rw [pairUp_nil_right]
      exact iff_of_false (by rintro ⟨⟩) fun ⟨_, h, _⟩ => not_pairedAt_nil_right h
    | cons c cells =>
      rw [get?_pairUp_cons, Option.or_eq_some_iff, ih, get?_pairUp_eq_none_iff,
        Option.ite_none_right_eq_some]
      constructor
      · rintro (⟨i, hi, hlast⟩ | ⟨hrest, hhead⟩)
        · refine ⟨i + 1, pairedAt_succ.2 hi, fun j w hj => ?_⟩
          cases j with
          | zero => omega
          | succ j => exact mt pairedAt_succ.1 (hlast j w (by omega))
        · refine ⟨0, pairedAt_zero.2 hhead, fun j w hj => ?_⟩
          cases j with
          | zero => omega
          | succ j => exact mt pairedAt_succ.1 (hrest j w)
      · rintro ⟨i, hi, hlast⟩
        cases i with
        | zero =>
          exact .inr ⟨fun j w hj => hlast (j + 1) w (by omega) (pairedAt_succ.2 hj),
            pairedAt_zero.1 hi⟩
        | succ i =>
          exact .inl ⟨i, pairedAt_succ.1 hi, fun j w hij hj =>
            hlast (j + 1) w (by omega) (pairedAt_succ.2 hj)⟩

theorem PairedAt.place_unique {w : Value} {i j : Nat} (hnodup : names.Nodup)
    (hi : PairedAt names cells i name v) (hj : PairedAt names cells j name w) : i = j := by
  have hlt := (List.getElem?_eq_some_iff.1 hi.1).1
  exact (List.getElem?_inj hlt hnodup).1 (hi.1.trans hj.1.symm)

theorem get?_pairUp_of_nodup (hnodup : names.Nodup) :
    (pairUp names cells).get? name = some v ↔ ∃ i, PairedAt names cells i name v := by
  rw [get?_pairUp_eq_some_iff]
  refine exists_congr fun i => and_iff_left_of_imp fun hi j w hij hj => ?_
  have hsame := hi.place_unique hnodup hj
  omega

end Pairs

/-! ### Lines of the section -/

section Lines

variable {text text' : String}

/-- What stands behind the lead on the lines of the section. -/
def behindLead (text : String) : List (List Char) :=
  (lines text.toList).filterMap (afterLead? "Tcp:")

theorem afterLead?_append (line : List Char) :
    afterLead? "Tcp:" (transportLead ++ line) = some line :=
  List.isPrefixOf?_eq_some_iff_append_eq.2 rfl

theorem afterLead?_eq_none {line : List Char} (h : ¬transportLead <+: line) :
    afterLead? "Tcp:" line = none := by
  rw [Option.eq_none_iff_forall_ne_some]
  exact fun rest hrest => h ⟨rest, List.isPrefixOf?_eq_some_iff_append_eq.1 hrest⟩

theorem transportLines_eq (text : String) :
    transportLines text = (behindLead text).map (transportLead ++ ·) := by
  unfold transportLines behindLead
  induction lines text.toList with
  | nil => rfl
  | cons line rest ih =>
    by_cases h : transportLead <+: line
    · obtain ⟨behind, rfl⟩ := h
      rw [List.filter_cons_of_pos (by simp), List.filterMap_cons_some (afterLead?_append behind),
        ih, List.map_cons]
    · rw [List.filter_cons_of_neg (by simpa using h),
        List.filterMap_cons_none (afterLead?_eq_none h), ih]

theorem transportFields?_eq_none_iff :
    transportFields? text = none ↔ (transportLines text).length < 2 := by
  rw [transportLines_eq, List.length_map, transportFields?, ← behindLead]
  match behindLead text with
  | [] => simp
  | [_] => simp
  | _ :: _ :: _ => simp

theorem transportFields?_congr (h : (transportLines text).take 2 = (transportLines text').take 2) :
    transportFields? text = transportFields? text' := by
  rw [transportLines_eq, transportLines_eq, ← List.map_take, ← List.map_take,
    (List.map_injective_iff.2 (List.append_right_injective transportLead)).eq_iff] at h
  rw [transportFields?, transportFields?, ← behindLead, ← behindLead]
  match behindLead text, behindLead text', h with
  | [], [], _ => rfl
  | [_], [_], _ => rfl
  | names :: values :: _, names' :: values' :: _, h =>
    obtain ⟨rfl, rfl⟩ : names = names' ∧ values = values' := by simpa using h
    rfl

theorem transportFields?_of_behindLead {names values : List Char} {rest : List (List Char)}
    (h : behindLead text = names :: values :: rest) :
    transportFields? text = some (pairUp (words names) (words values)) := by
  rw [transportFields?, ← behindLead, h]

theorem exists_behindLead {names values : List Char} {rest : List (List Char)}
    (h : transportLines text = (transportLead ++ names) :: (transportLead ++ values) :: rest) :
    ∃ rest', behindLead text = names :: values :: rest' := by
  rw [transportLines_eq, List.map_eq_cons_iff] at h
  obtain ⟨names', tail, hbehind, hnames, htail⟩ := h
  obtain ⟨values', rest', rfl, hvalues, -⟩ := List.map_eq_cons_iff.1 htail
  exact ⟨rest', by rw [hbehind, List.append_cancel_left hnames, List.append_cancel_left hvalues]⟩

end Lines

/-! ### Sections that are laid out -/

/-- A counter, with its name and the number that is written for it. -/
structure TransportCounter where
  name : String
  figure : Figure
  isWord_name : IsWord name.toList

/-- Some counters as a section among other lines: names and numbers are laid out on two lines with
the lead, and no other line with the lead stands in front of the second one. -/
structure HoldsCounters (counters : List TransportCounter) (ls : List (List Char)) : Prop where
  feed_not_mem : ∀ l ∈ ls, '\n' ∉ l
  split : ∃ before names between figures after,
    ls = before ++ (transportLead ++ names) :: (between ++ (transportLead ++ figures) :: after) ∧
    (∀ l ∈ before ++ between, ¬transportLead <+: l) ∧
    LaidOut (counters.map (·.name.toList)) names ∧ LaidOut (counters.map (·.figure.text)) figures

theorem withoutReturn_lead (s : List Char) :
    withoutReturn (transportLead ++ s) = transportLead ++ withoutReturn s :=
  Text.withoutReturn_mark (show ':' ≠ '\r' by decide) ['T', 'c', 'p'] s

theorem filterMap_afterLead?_of_forall {ls : List (List Char)}
    (h : ∀ l ∈ ls, ¬transportLead <+: l) :
    (ls.map withoutReturn).filterMap (afterLead? "Tcp:") = [] := by
  rw [List.filterMap_eq_nil_iff, List.forall_mem_map]
  intro l hl
  exact afterLead?_eq_none fun hlead => h l hl (hlead.trans (Text.withoutReturn_prefix l))

theorem HoldsCounters.transportFields?_eq {counters : List TransportCounter} {ls : List (List Char)}
    (h : HoldsCounters counters ls) : transportFields? (String.ofList (fedLines ls)) =
      some (pairUp (counters.map (·.name.toList)) (counters.map (·.figure.text))) := by
  obtain ⟨before, names, between, figures, after, hls, hother, hnames, hfigures⟩ := h.split
  rw [List.forall_mem_append] at hother
  have hbehind : behindLead (String.ofList (fedLines ls)) = withoutReturn names ::
      withoutReturn figures :: (after.map withoutReturn).filterMap (afterLead? "Tcp:") := by
    rw [behindLead, String.toList_ofList, Text.lines_fedLines h.feed_not_mem, hls, List.map_append,
      List.filterMap_append, filterMap_afterLead?_of_forall hother.1, List.nil_append,
      List.map_cons, withoutReturn_lead, List.filterMap_cons_some (afterLead?_append _),
      List.map_append, List.filterMap_append, filterMap_afterLead?_of_forall hother.2,
      List.nil_append, List.map_cons, withoutReturn_lead,
      List.filterMap_cons_some (afterLead?_append _)]
  rw [transportFields?_of_behindLead hbehind, Text.words_withoutReturn, Text.words_withoutReturn,
    hnames.words_eq, hfigures.words_eq]

theorem pairedAt_counters {counters : List TransportCounter} {i : Nat} {name : String} {v : Value} :
    PairedAt (counters.map (·.name.toList)) (counters.map (·.figure.text)) i name v ↔
      ∃ c, counters[i]? = some c ∧ c.name = name ∧ c.figure.value = v := by
  unfold PairedAt
  rw [List.getElem?_map, List.getElem?_map]
  cases counters[i]? with
  | none => simp
  | some c => simp [c.figure.reads, String.toList_inj]

/-- The section of the transport layer is the first two lines with its lead, and there is none just
if there are fewer. Other lines say nothing. A name has the last number that stands in a place of
it, and if names are distinct, the number in its place. So counters that are laid out among other
lines are read back, in whatever order they stand. -/
theorem counters_read_by_position :
    (∀ text, transportFields? text = none ↔ (transportLines text).length < 2) ∧
    (∀ text text', (transportLines text).take 2 = (transportLines text').take 2 →
      transportFields? text = transportFields? text') ∧
    (∀ text header figures rest,
      transportLines text = (transportLead ++ header) :: (transportLead ++ figures) :: rest →
      ∃ fields, transportFields? text = some fields ∧
        (∀ name v, fields.get? name = some v ↔
          ∃ i, PairedAt (words header) (words figures) i name v ∧
            ∀ j w, i < j → ¬PairedAt (words header) (words figures) j name w) ∧
        ((words header).Nodup → ∀ name v, fields.get? name = some v ↔
          ∃ i, PairedAt (words header) (words figures) i name v)) ∧
    ∀ counters ls, (counters.map (·.name)).Nodup → HoldsCounters counters ls →
      ∃ fields, transportFields? (String.ofList (fedLines ls)) = some fields ∧
        ∀ name v, fields.get? name = some v ↔
          ∃ c ∈ counters, c.name = name ∧ c.figure.value = v := by
  refine ⟨fun _ => transportFields?_eq_none_iff, fun _ _ => transportFields?_congr,
    fun text header figures rest h => ?_, fun counters ls hnodup h => ?_⟩
  · obtain ⟨rest', hbehind⟩ := exists_behindLead h
    exact ⟨_, transportFields?_of_behindLead hbehind, fun _ _ => get?_pairUp_eq_some_iff,
      fun hnodup _ _ => get?_pairUp_of_nodup hnodup⟩
  · refine ⟨_, h.transportFields?_eq, fun name v => ?_⟩
    have hnames : (counters.map (·.name.toList)).Nodup := by
      have hmap := hnodup.map fun _ _ h => String.toList_injective h
      rwa [List.map_map] at hmap
    rw [get?_pairUp_of_nodup hnames]
    simp only [pairedAt_counters, List.mem_iff_getElem?]
    constructor
    · rintro ⟨i, c, hc, hname, hvalue⟩
      exact ⟨c, ⟨i, hc⟩, hname, hvalue⟩
    · rintro ⟨c, ⟨i, hc⟩, hname, hvalue⟩
      exact ⟨i, c, hc, hname, hvalue⟩

/-- A section with a word that is no number and a line that is too short. -/
def gappedText : String :=
  "Ip: A B\nTcpExt: A B\nTcp: A B C D\nUdp: 8 9\nTcp: 1 x 3\nTcp: 7 7 7 7\n"

def twoCounters : List TransportCounter :=
  [⟨"InSegs", .ofNat 5, by decide +kernel⟩, ⟨"MaxConn", .ofNat 0, by decide +kernel⟩]

def twoCountersLines : List (List Char) :=
  ["TcpExt: InSegs".toList, transportLead ++ " InSegs MaxConn".toList, "Udp: 1".toList,
    transportLead ++ " 5 0".toList, transportLead ++ " 9 9".toList]

theorem holdsCounters_twoCounters : HoldsCounters twoCounters twoCountersLines where
  feed_not_mem := by decide
  split := by
    refine ⟨["TcpExt: InSegs".toList], " InSegs MaxConn".toList, ["Udp: 1".toList],
      " 5 0".toList, [transportLead ++ " 9 9".toList], rfl, by decide, ?_, ?_⟩
    · exact Text.laidOut_flatMap (List.forall_mem_map.2 fun c _ => c.isWord_name)
    · exact Text.laidOut_flatMap (List.forall_mem_map.2 fun c _ =>
        Decimal.isWord_of_value c.figure.reads)

/-- One line is no section, names without a number have no value, and two counters are read back. -/
theorem counters_read_by_position_gaps :
    transportFields? "TcpExt: A\nTcp: 1\n" = none ∧
    transportFields? gappedText = transportFields? "Tcp: A B C D\nTcp: 1 x 3" ∧
    (∃ fields, transportFields? gappedText = some fields ∧
      fields.get? "A" = some (Decimal.countValue 1) ∧ fields.get? "B" = none ∧
      fields.get? "C" = some (Decimal.countValue 3) ∧ fields.get? "D" = none) ∧
    ∃ fields, transportFields? (String.ofList (fedLines twoCountersLines)) = some fields ∧
      fields.get? "MaxConn" = some (Decimal.countValue 0) := by
  obtain ⟨hnone, hsame, hpaired, hread⟩ := counters_read_by_position
  refine ⟨(hnone _).2 (by decide), hsame _ _ (by decide), ?_, ?_⟩
  · obtain ⟨fields, hfields, -, hdistinct⟩ := hpaired gappedText " A B C D".toList " 1 x 3".toList
      [transportLead ++ " 7 7 7 7".toList] rfl
    have hvalue := hdistinct (by decide)
    have hmissing (name : String) (h : ∀ i < 4, (words " A B C D".toList)[i]? = some name.toList →
        ((words " 1 x 3".toList)[i]?.bind Value.read?) = none) : fields.get? name = none := by
      rw [Option.eq_none_iff_forall_ne_some]
      intro v hv
      obtain ⟨i, hname, cell, hcell, hcellRead⟩ := (hvalue name v).1 hv
      have hi : i < 4 := (List.getElem?_eq_some_iff.1 hname).1
      have hgone := h i hi hname
      rw [hcell, Option.bind_some, hcellRead] at hgone
      cases hgone
    refine ⟨fields, hfields, ?_, hmissing "B" (by decide), ?_, hmissing "D" (by decide)⟩
    · exact (hvalue _ _).2 ⟨0, rfl, ['1'], rfl, Decimal.read?_natDigits 1⟩
    · exact (hvalue _ _).2 ⟨2, rfl, ['3'], rfl, Decimal.read?_natDigits 3⟩
  · obtain ⟨fields, hfields, hvalue⟩ := hread twoCounters twoCountersLines (by decide)
      holdsCounters_twoCounters
    exact ⟨fields, hfields, (hvalue _ _).2 ⟨_, List.mem_cons_of_mem _ List.mem_cons_self, rfl, rfl⟩⟩

end Kernel

end HostTelemetry
