import HostTelemetry.Kernel.Tables
import HostTelemetry.Proofs.ListedProcesses
import HostTelemetry.Proofs.NumberWords

/-!
# Tables read by column

Two tables of the kernel have a line for each device or interface and counts in columns. What a line
says depends on this line alone, and each field on the column in one place: it is there if the word
in that place is a number. So tables that are laid out with any blanks between their columns are
read back, row by row and field by field.
-/

namespace HostTelemetry.Kernel

open Text (words lines trim cutFirst IsWord LaidOut fedLines withoutReturn)

/-- A field of a table and the place of its column, counted from 0. Some columns count sectors. -/
structure FieldColumn where
  field : String
  position : Nat
  inSectors : Bool
deriving DecidableEq

namespace FieldColumn

/-- What a column says on a line with some cells. -/
def value? (c : FieldColumn) (cells : List (List Char)) : Option Value :=
  let read := cells[c.position]?.bind Value.read?
  if c.inSectors then read.map (·.scale sectorBytes) else read

/-- A column has a value if there is a cell in its place and the cell is a number. -/
def Says (c : FieldColumn) (cells : List (List Char)) (v : Value) : Prop :=
  ∃ cell x, cells[c.position]? = some cell ∧ Value.read? cell = some x ∧
    v = if c.inSectors then x.scale sectorBytes else x

theorem value?_eq_some_iff {c : FieldColumn} {cells : List (List Char)} {v : Value} :
    c.value? cells = some v ↔ c.Says cells v := by
  unfold value? Says
  cases c.inSectors with
  | false =>
    simp only [Bool.false_eq_true, if_false, Option.bind_eq_some_iff]
    constructor
    · rintro ⟨cell, hcell, hread⟩
      exact ⟨cell, v, hcell, hread, rfl⟩
    · rintro ⟨cell, x, hcell, hread, rfl⟩
      exact ⟨cell, hcell, hread⟩
  | true =>
    simp only [if_true, Option.map_eq_some_iff, Option.bind_eq_some_iff]
    constructor
    · rintro ⟨x, ⟨cell, hcell, hread⟩, rfl⟩
      exact ⟨cell, x, hcell, hread, rfl⟩
    · rintro ⟨cell, x, hcell, hread, rfl⟩
      exact ⟨x, ⟨cell, hcell, hread⟩, rfl⟩

end FieldColumn

def diskColumns : List FieldColumn :=
  [⟨"reads", 3, false⟩, ⟨"read_bytes", 5, true⟩, ⟨"read_time_ms", 6, false⟩, ⟨"writes", 7, false⟩,
    ⟨"write_bytes", 9, true⟩, ⟨"write_time_ms", 10, false⟩, ⟨"in_progress", 11, false⟩]

def trafficColumns : List FieldColumn :=
  [⟨"rx_bytes", 0, false⟩, ⟨"rx_packets", 1, false⟩, ⟨"rx_errors", 2, false⟩,
    ⟨"rx_drops", 3, false⟩, ⟨"tx_bytes", 8, false⟩, ⟨"tx_packets", 9, false⟩,
    ⟨"tx_errors", 10, false⟩, ⟨"tx_drops", 11, false⟩]

/-- A line of at least twelve words. The third is the name, with no ignored lead. -/
def DiskLine (line : List Char) (name : String) (cells : List (List Char)) : Prop :=
  words line = cells ∧ 12 ≤ cells.length ∧ cells[2]? = some name.toList ∧
    ∀ lead ∈ ignoredDevices, ¬lead.toList <+: name.toList

/-- A line with a colon. In front of the first one is the name, not blank and without a bar. -/
def InterfaceLine (line : List Char) (name : String) (cells : List (List Char)) : Prop :=
  ∃ label rest, line = label ++ ':' :: rest ∧ ':' ∉ label ∧ trim label = name.toList ∧
    name.toList ≠ [] ∧ '|' ∉ name.toList ∧ words rest = cells

/-! ### Fields -/

def fieldsOf (columns : List FieldColumn) (cells : List (List Char)) : Fields :=
  columns.foldl (fun f c => f.setIfSome c.field (c.value? cells)) Fields.empty

theorem get?_fieldsOf {columns : List FieldColumn} (hnodup : (columns.map (·.field)).Nodup)
    (cells : List (List Char)) (field : String) (v : Value) :
    (fieldsOf columns cells).get? field = some v ↔
      ∃ c ∈ columns, c.field = field ∧ c.Says cells v := by
  induction columns using List.reverseRecOn generalizing v with
  | nil => simp [fieldsOf, Fields.empty, Fields.get?, Fields.entry?]
  | append_singleton columns c ih =>
    rw [List.map_append, List.nodup_append] at hnodup
    obtain ⟨hcolumns, -, hdistinct⟩ := hnodup
    have hlast : (fieldsOf (columns ++ [c]) cells).get? field =
        if c.field = field then (c.value? cells).or ((fieldsOf columns cells).get? field)
        else (fieldsOf columns cells).get? field := by
      rw [fieldsOf, List.foldl_append, List.foldl_cons, List.foldl_nil, Fields.get?_setIfSome]
      rfl
    simp only [List.mem_append, List.mem_singleton, or_and_right, exists_or, exists_eq_left]
    rw [hlast]
    by_cases hc : c.field = field
    · -- No column in front has this field.
      have hother : ∀ c' ∈ columns, c'.field ≠ field := fun c' hmem heq =>
        hdistinct c'.field (List.mem_map_of_mem hmem) c.field (by simp) (heq.trans hc.symm)
      have hnone : (fieldsOf columns cells).get? field = none := by
        rw [Option.eq_none_iff_forall_ne_some]
        intro w hw
        obtain ⟨c', hmem, hfield, -⟩ := (ih hcolumns w).1 hw
        exact hother c' hmem hfield
      rw [if_pos hc, hnone, Option.or_none, FieldColumn.value?_eq_some_iff]
      refine ⟨fun h => .inr ⟨hc, h⟩, ?_⟩
      rintro (⟨c', hmem, hfield, -⟩ | ⟨-, h⟩)
      · exact absurd hfield (hother c' hmem)
      · exact h
    · rw [if_neg hc, ih hcolumns]
      exact ⟨.inl, fun h => h.resolve_right fun h => hc h.1⟩

/-! ### Lines with an entry -/

variable {line : List Char} {name : String} {fields : Fields}

/-- A line with at least twelve words. -/
theorem exists_twelve {α : Type} {l : List α} (h : 12 ≤ l.length) :
    ∃ a b c d e f g i j k m n rest,
      l = a :: b :: c :: d :: e :: f :: g :: i :: j :: k :: m :: n :: rest := by
  match l, h with
  | a :: b :: c :: d :: e :: f :: g :: i :: j :: k :: m :: n :: rest, _ =>
    exact ⟨a, b, c, d, e, f, g, i, j, k, m, n, rest, rfl⟩

theorem diskLine?_of_words {a b c d e f g i j k m n : List Char} {rest : List (List Char)}
    (h : words line = a :: b :: c :: d :: e :: f :: g :: i :: j :: k :: m :: n :: rest) :
    diskLine? line = if ignoredDevices.any fun lead => lead.toList.isPrefixOf c then none
      else some (String.ofList c, fieldsOf diskColumns (words line)) := by
  rw [diskLine?, h]
  rfl

theorem diskLine?_eq_some_iff : diskLine? line = some (name, fields) ↔
    ∃ cells, DiskLine line name cells ∧ fields = fieldsOf diskColumns cells := by
  by_cases hlength : 12 ≤ (words line).length
  · obtain ⟨a, b, c, d, e, f, g, i, j, k, m, n, rest, hwords⟩ := exists_twelve hlength
    have hthird : (words line)[2]? = some c := by rw [hwords]; rfl
    rw [diskLine?_of_words hwords, Option.ite_none_left_eq_some, List.any_eq_true]
    simp only [List.isPrefixOf_iff_prefix, Option.some.injEq, Prod.mk.injEq, not_exists, not_and]
    constructor
    · rintro ⟨hlead, rfl, rfl⟩
      exact ⟨words line, ⟨rfl, hlength, by simpa using hthird, by simpa using hlead⟩, rfl⟩
    · rintro ⟨cells, ⟨rfl, -, hname, hlead⟩, rfl⟩
      obtain rfl : c = name.toList := Option.some.inj (hthird.symm.trans hname)
      exact ⟨hlead, String.ofList_toList, rfl⟩
  · have hnone : diskLine? line = none := by
      unfold diskLine?
      split
      · next hwords =>
        rw [hwords] at hlength
        simp at hlength
      · rfl
    rw [hnone]
    refine iff_of_false (by simp) ?_
    rintro ⟨cells, ⟨rfl, hlong, -⟩, -⟩
    exact hlength hlong

theorem fieldsOf_trafficColumns (cells : List (List Char)) :
    fieldsOf trafficColumns cells = interfaceColumns.foldl
      (fun f c => f.setIfSome c.2 (cells[c.1]?.bind Value.read?)) Fields.empty := rfl

theorem interfaceLine?_eq_some_iff : interfaceLine? line = some (name, fields) ↔
    ∃ cells, InterfaceLine line name cells ∧ fields = fieldsOf trafficColumns cells := by
  simp only [interfaceLine?, Option.bind_eq_bind, Option.bind_eq_some_iff, Prod.exists,
    Text.cutFirst_eq_some_iff, Option.ite_none_left_eq_some, Bool.or_eq_true,
    List.contains_iff_mem, List.isEmpty_iff, not_or, ← fieldsOf_trafficColumns]
  constructor
  · rintro ⟨label, rest, ⟨hline, hlabel⟩, ⟨hbar, hname⟩, hentry⟩
    obtain ⟨rfl, rfl⟩ := Prod.mk.inj (Option.some.inj hentry)
    exact ⟨words rest, ⟨label, rest, hline, hlabel, by simp, by simpa using hname,
      by simpa using hbar, rfl⟩, rfl⟩
  · rintro ⟨cells, ⟨label, rest, hline, hlabel, htrim, hname, hbar, rfl⟩, rfl⟩
    refine ⟨label, rest, ⟨hline, hlabel⟩, ?_⟩
    rw [htrim]
    exact ⟨⟨hbar, hname⟩, by rw [String.ofList_toList]⟩

/-! ### Tables -/

/-- How a table is read: line by line, a line for itself. A line that is no row gives no entry, and
a row gives one. A field of it is there just where the word in its place is a number. -/
structure ReadByColumn (table : String → List Entry)
    (IsRow : List Char → String → List (List Char) → Prop) (columns : List FieldColumn) :
    Prop where
  alone : ∀ text,
    table text = (lines text.toList).flatMap fun line => table (String.ofList line)
  no_row : ∀ line, '\n' ∉ line → (∀ name cells, ¬IsRow line name cells) →
    table (String.ofList line) = []
  row : ∀ line name cells, '\n' ∉ line → IsRow line name cells →
    ∃ fields, table (String.ofList line) = [(name, fields)] ∧
      ∀ field v, fields.get? field = some v ↔ ∃ c ∈ columns, c.field = field ∧ c.Says cells v

section Table

variable {line? : List Char → Option Entry} {IsRow : List Char → String → List (List Char) → Prop}
  {columns : List FieldColumn}

theorem filterMap_lines (hempty : line? [] = none) (hline : '\n' ∉ line) :
    (lines line).filterMap line? = (line? line).toList := by
  cases line with
  | nil => rw [hempty]; rfl
  | cons c r =>
    rw [Text.lines_of_feed_not_mem hline (by simp), List.filterMap_cons]
    cases line? (c :: r) <;> rfl

/-- A table is read line by line, each line for itself. -/
theorem filterMap_lines_alone (hempty : line? [] = none) (text : String) :
    (lines text.toList).filterMap line? = (lines text.toList).flatMap fun line =>
      (lines (String.ofList line).toList).filterMap line? := by
  rw [List.filterMap_eq_flatMap_toList]
  refine List.flatMap_congr fun line hline => ?_
  rw [String.toList_ofList, filterMap_lines hempty (Text.feed_not_mem_of_mem_lines hline)]

theorem readByColumn (hempty : line? [] = none) (hnodup : (columns.map (·.field)).Nodup)
    (hrow : ∀ line name fields, line? line = some (name, fields) ↔
      ∃ cells, IsRow line name cells ∧ fields = fieldsOf columns cells) :
    ReadByColumn (fun text => (lines text.toList).filterMap line?) IsRow columns where
  alone text := filterMap_lines_alone hempty text
  no_row line hline hno := by
    rw [String.toList_ofList, filterMap_lines hempty hline]
    cases hentry : line? line with
    | none => rfl
    | some e =>
      obtain ⟨cells, hcells, -⟩ := (hrow line e.1 e.2).1 hentry
      exact absurd hcells (hno e.1 cells)
  row line name cells hline hcells := by
    refine ⟨fieldsOf columns cells, ?_, get?_fieldsOf hnodup cells⟩
    have hentry := (hrow line name _).2 ⟨cells, hcells, rfl⟩
    rw [String.toList_ofList, filterMap_lines hempty hline, hentry]
    rfl

/-- Lines that are read as the entries of some rows. -/
theorem filterMap_fedLines {Record : Type} {entry : Record → Entry} {rows : List Record}
    {ls : List (List Char)}
    (h : List.Forall₂ (fun r l => '\n' ∉ l ∧ line? (withoutReturn l) = some (entry r)) rows ls) :
    (lines (fedLines ls)).filterMap line? = rows.map entry := by
  obtain ⟨hfeed, hentries⟩ := (List.forall₂_and_left ls rows).1 h.flip
  rw [Text.lines_fedLines hfeed, List.filterMap_map]
  clear h hfeed
  induction hentries with
  | nil => rfl
  | cons hentry _ ih => rw [List.filterMap_cons, Function.comp_apply, hentry, ih, List.map_cons]

end Table

/-! ### Rows that are laid out -/

/-- A number as it is written in a column. -/
structure Figure where
  text : List Char
  value : Value
  reads : Value.read? text = some value

def Figure.ofNat (n : Nat) : Figure :=
  ⟨Decimal.natDigits n, Decimal.countValue n, Decimal.read?_natDigits n⟩

theorem isWord_figure (figures : List Figure) : ∀ w ∈ figures.map (·.text), IsWord w :=
  List.forall_mem_map.2 fun figure _ => Decimal.isWord_of_value figure.reads

/-- A device, with all of the columns that are published and any further ones. -/
structure DiskRecord where
  name : String
  major : Figure
  minor : Figure
  reads : Figure
  readsMerged : Figure
  sectorsRead : Figure
  readTime : Figure
  writes : Figure
  writesMerged : Figure
  sectorsWritten : Figure
  writeTime : Figure
  inProgress : Figure
  further : List Figure
  isWord_name : IsWord name.toList
  not_ignored : ∀ lead ∈ ignoredDevices, ¬lead.toList <+: name.toList

namespace DiskRecord

def cells (r : DiskRecord) : List (List Char) :=
  [r.major, r.minor].map (·.text) ++ r.name.toList ::
    ([r.reads, r.readsMerged, r.sectorsRead, r.readTime, r.writes, r.writesMerged,
      r.sectorsWritten, r.writeTime, r.inProgress] ++ r.further).map (·.text)

/-- The row on a line, with any blanks between the columns and at the two ends. -/
def Renders (r : DiskRecord) (line : List Char) : Prop := LaidOut r.cells line

def entry (r : DiskRecord) : Entry :=
  (r.name, Fields.ofList [("reads", r.reads.value),
    ("read_bytes", r.sectorsRead.value.scale sectorBytes), ("read_time_ms", r.readTime.value),
    ("writes", r.writes.value), ("write_bytes", r.sectorsWritten.value.scale sectorBytes),
    ("write_time_ms", r.writeTime.value), ("in_progress", r.inProgress.value)])

variable (r : DiskRecord)

theorem isWord_cells : ∀ w ∈ r.cells, IsWord w :=
  List.forall_mem_append.2
    ⟨isWord_figure _, List.forall_mem_cons.2 ⟨r.isWord_name, isWord_figure _⟩⟩

theorem fields_eq : r.entry.2 = fieldsOf diskColumns r.cells := by
  simp [fieldsOf, diskColumns, FieldColumn.value?, cells, Figure.reads, entry, Fields.ofList,
    Fields.setIfSome]

theorem diskLine_of_words (line : List Char) (h : words line = r.cells) :
    DiskLine line r.name r.cells :=
  ⟨h, by simp [cells], rfl, r.not_ignored⟩

theorem diskLine?_rendered {line : List Char} (h : r.Renders line) :
    '\n' ∉ line ∧ diskLine? (withoutReturn line) = some r.entry := by
  refine ⟨h.feed_not_mem, diskLine?_eq_some_iff.2 ⟨r.cells, ?_, r.fields_eq⟩⟩
  exact r.diskLine_of_words _ ((Text.words_withoutReturn line).trans h.words_eq)

/-- A single space in front of each column is a layout. -/
theorem renders_spaced : r.Renders (r.cells.flatMap (' ' :: ·)) :=
  Text.laidOut_flatMap r.isWord_cells

end DiskRecord

/-- The counts of one direction. The last four are not published. -/
structure Traffic where
  bytes : Figure
  packets : Figure
  errors : Figure
  drops : Figure
  fifth : Figure
  sixth : Figure
  seventh : Figure
  eighth : Figure

def Traffic.figures (t : Traffic) : List Figure :=
  [t.bytes, t.packets, t.errors, t.drops, t.fifth, t.sixth, t.seventh, t.eighth]

/-- An interface, with all of its columns and any further ones. -/
structure InterfaceRecord where
  name : String
  received : Traffic
  sent : Traffic
  further : List Figure
  isWord_name : IsWord name.toList
  colon_not_mem : ':' ∉ name.toList
  bar_not_mem : '|' ∉ name.toList

namespace InterfaceRecord

def cells (r : InterfaceRecord) : List (List Char) :=
  (r.received.figures ++ r.sent.figures ++ r.further).map (·.text)

/-- The row on a line: the name, a colon and the columns, with any blanks between the columns, and
around the name and the columns. -/
def Renders (r : InterfaceRecord) (line : List Char) : Prop :=
  ∃ label rest, line = label ++ ':' :: rest ∧ LaidOut [r.name.toList] label ∧ LaidOut r.cells rest

def entry (r : InterfaceRecord) : Entry :=
  (r.name, Fields.ofList [("rx_bytes", r.received.bytes.value),
    ("rx_packets", r.received.packets.value), ("rx_errors", r.received.errors.value),
    ("rx_drops", r.received.drops.value), ("tx_bytes", r.sent.bytes.value),
    ("tx_packets", r.sent.packets.value), ("tx_errors", r.sent.errors.value),
    ("tx_drops", r.sent.drops.value)])

variable (r : InterfaceRecord)

theorem fields_eq : r.entry.2 = fieldsOf trafficColumns r.cells := by
  simp [fieldsOf, trafficColumns, FieldColumn.value?, cells, Traffic.figures, Figure.reads, entry,
    Fields.ofList, Fields.setIfSome]

theorem interfaceLine_of_laidOut {label rest : List Char}
    (hlabel : LaidOut [r.name.toList] label) (hrest : words rest = r.cells) :
    InterfaceLine (label ++ ':' :: rest) r.name r.cells :=
  ⟨label, rest, rfl, hlabel.not_mem (by decide) r.colon_not_mem, hlabel.trim_eq,
    r.isWord_name.ne_nil, r.bar_not_mem, hrest⟩

theorem interfaceLine?_rendered {line : List Char} (h : r.Renders line) :
    '\n' ∉ line ∧ interfaceLine? (withoutReturn line) = some r.entry := by
  obtain ⟨label, rest, rfl, hlabel, hrest⟩ := h
  constructor
  · simp [hlabel.feed_not_mem, hrest.feed_not_mem]
  · rw [Text.withoutReturn_mark (by decide)]
    refine interfaceLine?_eq_some_iff.2 ⟨r.cells, ?_, r.fields_eq⟩
    exact r.interfaceLine_of_laidOut hlabel ((Text.words_withoutReturn rest).trans hrest.words_eq)

/-- A single space in front of the name and of each column is a layout. -/
theorem renders_spaced :
    r.Renders (' ' :: r.name.toList ++ ':' :: r.cells.flatMap (' ' :: ·)) := by
  have hname := Text.laidOut_flatMap (List.forall_mem_singleton.2 r.isWord_name)
  exact ⟨_, _, rfl, by simpa using hname, Text.laidOut_flatMap (isWord_figure _)⟩

end InterfaceRecord

/-- Rows can be laid out, and are read back from each layout, in their order and with all of their
fields. -/
structure ReadBack {Record : Type} (table : String → List Entry)
    (Renders : Record → List Char → Prop) (entry : Record → Entry) : Prop where
  renders : ∀ r, ∃ line, Renders r line
  read : ∀ rows ls, List.Forall₂ Renders rows ls →
    table (String.ofList (fedLines ls)) = rows.map entry

/-- The two tables of devices and interfaces are read line by line and by column, and rows that are
laid out with any blanks are read back. -/
theorem tables_read_by_column :
    ReadByColumn diskTable DiskLine diskColumns ∧
    ReadByColumn interfaceTable InterfaceLine trafficColumns ∧
    ReadBack diskTable DiskRecord.Renders DiskRecord.entry ∧
    ReadBack interfaceTable InterfaceRecord.Renders InterfaceRecord.entry := by
  refine ⟨?_, ?_, ?_, ?_⟩
  · exact readByColumn rfl (by decide) fun _ _ _ => diskLine?_eq_some_iff
  · exact readByColumn rfl (by decide) fun _ _ _ => interfaceLine?_eq_some_iff
  · refine ⟨fun r => ⟨_, r.renders_spaced⟩, fun rows ls h => ?_⟩
    rw [diskTable, String.toList_ofList]
    exact filterMap_fedLines (h.imp fun r _ => r.diskLine?_rendered)
  · refine ⟨fun r => ⟨_, r.renders_spaced⟩, fun rows ls h => ?_⟩
    rw [interfaceTable, String.toList_ofList]
    exact filterMap_fedLines (h.imp fun r _ => r.interfaceLine?_rendered)

/-- A device of nine counts. -/
def smallDisk : DiskRecord where
  name := "sda"
  major := .ofNat 8
  minor := .ofNat 0
  reads := .ofNat 1
  readsMerged := .ofNat 2
  sectorsRead := .ofNat 3
  readTime := .ofNat 4
  writes := .ofNat 5
  writesMerged := .ofNat 6
  sectorsWritten := .ofNat 7
  writeTime := .ofNat 8
  inProgress := .ofNat 9
  further := []
  isWord_name := by
    have hink : "sda".toList.all (!Text.isBlank ·) = true := rfl
    exact ⟨by decide, by simpa using List.all_eq_true.1 hink⟩
  not_ignored := by decide

/-- A short row with a word that is no number, and a row that is read back. -/
theorem tables_read_by_column_rows :
    (∃ fields, interfaceTable "lo:1 x 3" = [("lo", fields)] ∧
      fields.get? "rx_bytes" = some (Decimal.countValue 1) ∧ fields.get? "rx_packets" = none ∧
      fields.get? "rx_errors" = some (Decimal.countValue 3)) ∧
    diskTable " 8 0 sda 1 2 3 4 5 6 7 8 9\n" = [smallDisk.entry] := by
  obtain ⟨-, hinterface, hdisk, -⟩ := tables_read_by_column
  constructor
  · obtain ⟨fields, htable, hfields⟩ := hinterface.row "lo:1 x 3".toList "lo" [['1'], ['x'], ['3']]
      (by decide) ⟨['l', 'o'], "1 x 3".toList, rfl, by decide, rfl, by decide, by decide, rfl⟩
    refine ⟨fields, htable, ?_, ?_, ?_⟩
    · exact (hfields _ _).2 ⟨⟨"rx_bytes", 0, false⟩, by decide, rfl, ['1'], _, rfl,
        Decimal.read?_natDigits 1, rfl⟩
    · rw [Option.eq_none_iff_forall_ne_some]
      intro v hv
      obtain ⟨c, hc, hfield, cell, x, hcell, hread, -⟩ := (hfields _ _).1 hv
      have hposition : ∀ c ∈ trafficColumns, c.field = "rx_packets" → c.position = 1 := by decide
      rw [hposition c hc hfield] at hcell
      obtain rfl := Option.some.inj hcell
      cases hread
    · exact (hfields _ _).2 ⟨⟨"rx_errors", 2, false⟩, by decide, rfl, ['3'], _, rfl,
        Decimal.read?_natDigits 3, rfl⟩
  · have htext : String.ofList (fedLines [smallDisk.cells.flatMap (' ' :: ·)]) =
        " 8 0 sda 1 2 3 4 5 6 7 8 9\n" := rfl
    rw [← htext]
    exact hdisk.read [smallDisk] _ (.cons smallDisk.renders_spaced .nil)

end HostTelemetry.Kernel
