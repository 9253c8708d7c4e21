import HostTelemetry.Kernel.Source
import HostTelemetry.Proofs.DoubleArithmetic
import HostTelemetry.Proofs.NumberOrder
import HostTelemetry.Proofs.TextParts

/-!
# Columns of the kernel's tables

Every field that is read from the kernel comes from columns, numbers that are parts of the text of a
file. Where the columns are finite, not too large and, unless they are 0, not too small, the fields
are finite doubles on one grid: no unit, sum or difference takes them out of range.
-/

namespace HostTelemetry

namespace Double

/-- A number between two powers of two in size, or 0. -/
structure Moderate (x : Float) : Prop where
  finite : x.isFinite = true
  abs_le : |amount x| ≤ 2 ^ (200 : Int)
  le_abs : amount x = 0 ∨ 2 ^ (-200 : Int) ≤ |amount x|

theorem Moderate.spans {x : Float} (h : Moderate x) : Spans x (-252) 200 where
  finite := h.finite
  abs_le := h.abs_le
  onGrid := onGrid_of_le h.finite h.le_abs

theorem spans_zero {x : Float} {g k : Int} (h : x.isFinite = true) (h0 : amount x = 0) :
    Spans x g k where
  finite := h
  abs_le := by
    rw [h0, abs_zero]
    exact (two_zpow_pos k).le
  onGrid := ⟨0, by rw [h0, Int.cast_zero, zero_mul]⟩

theorem spans_natCast {n : Nat} (hn : n < 2 ^ 53) {g : Int} (hg : g ≤ 0) :
    Spans (Float.ofNat n) g 53 := by
  obtain ⟨hfinite, hamount⟩ := settle_natCast hn (rounds_ofNat n)
  refine ⟨⟨hfinite, ?_⟩, ?_⟩
  · rw [hamount, abs_of_nonneg (Nat.cast_nonneg n)]
    exact_mod_cast hn.le
  · rw [hamount]
    exact OnGrid.of_le ⟨n, by simp⟩ hg

def isModerate (x : Float) : Bool :=
  x.isFinite && ((Decimal.Binary.ofDouble x).mantissa == 0 ||
    decide (-200 ≤ (Decimal.Binary.ofDouble x).power)) &&
    decide ((Decimal.Binary.ofDouble x).power ≤ 200 - 53)

theorem moderate_of_isModerate {x : Float} (h : isModerate x = true) : Moderate x := by
  simp only [isModerate, Bool.and_eq_true, Bool.or_eq_true, beq_iff_eq, decide_eq_true_eq] at h
  obtain ⟨⟨hfinite, hlow⟩, hhigh⟩ := h
  refine ⟨hfinite, (within_of_power hfinite hhigh).abs_le, ?_⟩
  by_cases h0 : (Decimal.Binary.ofDouble x).mantissa = 0
  · left
    rw [amount_eq hfinite, h0, Nat.cast_zero, zero_mul, mul_zero]
  · right
    have hone : (1 : ℚ) ≤ (Decimal.Binary.ofDouble x).mantissa := by
      exact_mod_cast Nat.pos_of_ne_zero h0
    rw [abs_amount hfinite]
    calc (2 : ℚ) ^ (-200 : Int) ≤ 2 ^ (Decimal.Binary.ofDouble x).power :=
          zpow_le_zpow_right₀ one_le_two (hlow.resolve_left h0)
      _ ≤ (Decimal.Binary.ofDouble x).mantissa * 2 ^ (Decimal.Binary.ofDouble x).power :=
          le_mul_of_one_le_left (two_zpow_pos _).le hone

end Double

open Double (amount Spans Moderate)

/-! ### Fields -/

namespace Fields

def Forall (p : Value → Prop) (f : Fields) : Prop := ∀ name v, f.get? name = some v → p v

variable {p : Value → Prop} {f : Fields}

theorem forall_empty : empty.Forall p := by
  intro name v hv
  cases hv

theorem Forall.set (h : f.Forall p) (name : String) {v : Value} (hv : p v) :
    (f.set name v).Forall p := by
  intro other w hw
  rw [get?_set] at hw
  split at hw
  · rw [Option.some_inj] at hw
    rwa [← hw]
  · exact h other w hw

theorem Forall.setIfSome (h : f.Forall p) (name : String) {v? : Option Value}
    (hv : ∀ v, v? = some v → p v) : (f.setIfSome name v?).Forall p := by
  cases v? with
  | none => exact h
  | some v => exact h.set name (hv v rfl)

theorem forall_ofList {l : List (String × Value)} (h : ∀ e ∈ l, p e.2) : (ofList l).Forall p := by
  unfold ofList
  refine List.foldlRecOn l _ forall_empty fun f hf e he => ?_
  exact hf.set e.1 (h e he)

end Fields

/-! ### Columns -/

namespace Kernel

open Text (Stands words lines firstWord trim cutFirst cutLast)

/-- Whatever part of the text reads as a number is a moderate one. -/
def ModerateText (text : List Char) : Prop :=
  ∀ w, Stands w text → ∀ v, Value.read? w = some v → Moderate v.number

def IsColumn (v : Value) : Prop := Spans v.number (-252) 200

def IsField (v : Value) : Prop := Spans v.number (-252) 256

theorem IsColumn.isField {v : Value} (h : IsColumn v) : IsField v := Spans.mono h (by norm_num)

theorem isField_of_le {v : Value} {k : Int} (h : Spans v.number (-252) k) (hk : k ≤ 256) :
    IsField v := h.mono hk

namespace ModerateText

variable {text part : List Char} {v : Value}

theorem of_part (h : ModerateText text) (hpart : Stands part text) : ModerateText part :=
  fun w hw => h w (hw.trans hpart)

theorem read (h : ModerateText text) (hv : Value.read? text = some v) : IsColumn v :=
  (h text (Text.stands_self text) v hv).spans

theorem line (h : ModerateText text) (hline : part ∈ lines text) : ModerateText part :=
  h.of_part (Text.stands_of_mem_lines hline)

theorem word (h : ModerateText text) (hword : part ∈ words text) : ModerateText part :=
  h.of_part (Text.stands_of_mem_words hword)

theorem firstNumber (h : ModerateText text) (hv : firstNumber? text = some v) : IsColumn v := by
  obtain ⟨w, hw, hread⟩ := Option.bind_eq_some_iff.1 hv
  exact (h.of_part (Text.stands_of_firstWord hw)).read hread

/-- What follows a lead that ends in a mark. -/
theorem afterLead (h : ModerateText text) {lead : String} {label : List Char} {mark : Char}
    (hlead : lead.toList = label ++ [mark]) (hmark : Text.isMark mark = true)
    (hrest : afterLead? lead text = some part) : ModerateText part := by
  refine h.of_part ?_
  rw [afterLead?, List.isPrefixOf?_eq_some_iff_append_eq, hlead] at hrest
  rw [← hrest, List.append_assoc]
  exact Text.stands_behind label (.inr hmark) part

theorem column (h : ModerateText text) {i : Nat} (hv : (words text)[i]?.bind Value.read? = some v) :
    IsColumn v := by
  obtain ⟨w, hw, hread⟩ := Option.bind_eq_some_iff.1 hv
  exact (h.word (List.mem_of_getElem? hw)).read hread

end ModerateText

/-- Whether all parts of a text that read as numbers are moderate, be there a boundary or not. -/
def isModerateText (text : List Char) : Bool :=
  (text.tails.flatMap List.inits).all fun w => (Value.read? w).all fun v => Double.isModerate v.number

theorem moderateText_of_isModerateText {text : List Char} (h : isModerateText text = true) :
    ModerateText text := by
  intro w hw v hv
  obtain ⟨before, behind, rfl, -, -⟩ := hw
  have hmem : w ∈ (before ++ w ++ behind).tails.flatMap List.inits := by
    refine List.mem_flatMap.2 ⟨w ++ behind, ?_, (List.mem_inits _ _).2 (List.prefix_append w behind)⟩
    rw [List.mem_tails, List.append_assoc]
    exact List.suffix_append before _
  have hall := List.all_eq_true.1 h w hmem
  rw [hv] at hall
  exact Double.moderate_of_isModerate hall

/-! ### Units, sums and differences -/

theorem kibibyte_amount : kibibyte.isFinite = true ∧ amount kibibyte = 2 ^ 10 :=
  Double.settle_natCast (n := 1024) (by norm_num) (Double.rounds_ofNat 1024)

theorem sectorBytes_amount : sectorBytes.isFinite = true ∧ amount sectorBytes = 2 ^ 9 :=
  Double.settle_natCast (n := 512) (by norm_num) (Double.rounds_ofNat 512)

theorem IsColumn.kibibytes {v : Value} (h : IsColumn v) :
    Spans (v.scale kibibyte).number (-252) 210 :=
  Spans.mul_two_pow h kibibyte_amount.1 kibibyte_amount.2 (by norm_num) (by norm_num) (by norm_num)

theorem IsColumn.sectors {v : Value} (h : IsColumn v) :
    Spans (v.scale sectorBytes).number (-252) 209 :=
  Spans.mul_two_pow h sectorBytes_amount.1 sectorBytes_amount.2 (by norm_num) (by norm_num)
    (by norm_num)

theorem sizeDifference_spans {a b : Float} {k : Int} (ha : Spans a (-252) k) (hb : Spans b (-252) k)
    (hlow : -252 ≤ k) (hhigh : k ≤ 1022) : Spans (sizeDifference a b) (-252) (k + 1) := by
  unfold sizeDifference
  split
  · exact ha.sub hb (by norm_num) hlow hhigh
  · exact Double.spans_zero (by decide +kernel) rfl

/-- A sum of columns is far below the bound of a field, however many they are. -/
theorem sum_spans {l : List Value} (h : ∀ v ∈ l, IsColumn v) :
    Spans (Value.sum l).number (-252) 254 := by
  unfold Value.sum
  refine List.foldlRecOn l _ (motive := fun v : Value => Spans v.number (-252) 254) ?_
    fun v hv w hw => ?_
  · exact Double.spans_zero (by decide +kernel) rfl
  · rw [Value.number_add]
    exact hv.add_small (h w hw) (by norm_num) (by norm_num) (by norm_num)

/-! ### Tables -/

section Tables

variable {text line : List Char}

theorem memoryLine_spans {entry : String × Value} (h : ModerateText line)
    (hentry : memoryLine? line = some entry) : Spans entry.2.number (-252) 210 := by
  simp only [memoryLine?, Option.bind_eq_bind, Option.bind_eq_some_iff, Option.some.injEq] at hentry
  obtain ⟨⟨name, rest⟩, hcut, size, hsize, rfl⟩ := hentry
  have hrest : ModerateText rest := h.of_part (Text.stands_of_cutFirst rfl hcut)
  exact (hrest.firstNumber hsize).kibibytes

theorem memoryFields_inRange {text : String} (h : ModerateText text.toList) :
    (memoryFields text).Forall IsField := by
  have hsizes : (Fields.ofList ((lines text.toList).filterMap memoryLine?)).Forall
      fun v => Spans v.number (-252) 210 := by
    refine Fields.forall_ofList fun e he => ?_
    obtain ⟨line, hline, hentry⟩ := List.mem_filterMap.1 he
    exact memoryLine_spans (h.line hline) hentry
  unfold memoryFields
  refine ((Fields.forall_empty.setIfSome _ fun v hv => ?_).setIfSome _ fun v hv => ?_).setIfSome _
    fun v hv => ?_
  · exact isField_of_le (hsizes _ v hv) (by norm_num)
  · exact isField_of_le (hsizes _ v hv) (by norm_num)
  · simp only [Option.bind_eq_bind, Option.bind_eq_some_iff, Option.some.injEq] at hv
    obtain ⟨total, htotal, available, havailable, rfl⟩ := hv
    exact isField_of_le (sizeDifference_spans (hsizes _ _ htotal) (hsizes _ _ havailable)
      (by norm_num) (by norm_num)) (by norm_num)

theorem processorFields_inRange {columns : List (List Char)} {f : Fields}
    (h : ∀ w ∈ columns, ModerateText w) (hf : processorFields? columns = some f) :
    f.Forall IsField := by
  have hcolumns : ∀ v ∈ (columns.take 8).filterMap Value.read?, IsColumn v := by
    intro v hv
    obtain ⟨w, hw, hread⟩ := List.mem_filterMap.1 hv
    exact (h w (List.mem_of_mem_take hw)).read hread
  unfold processorFields? at hf
  split at hf
  · next a b c idle rest heq =>
    rw [heq] at hcolumns
    rw [Option.some.injEq] at hf
    subst hf
    have htotal := sum_spans hcolumns
    have hidle : IsColumn idle := hcolumns idle (by simp)
    have hwait : IsColumn (rest.headD (0.0 : Float)) := by
      cases rest with
      | nil => exact Double.spans_zero (by decide +kernel) rfl
      | cons v rest => exact hcolumns v (by simp)
    have hresting : Spans (idle + rest.headD (0.0 : Float)).number (-252) 254 := by
      rw [Value.number_add]
      exact (hidle.mono (by norm_num)).add_small hwait (by norm_num) (by norm_num) (by norm_num)
    refine (Fields.forall_empty.set _ ?_).set _ (isField_of_le htotal (by norm_num))
    refine isField_of_le (k := 255) ?_ (by norm_num)
    rw [Value.number_sub]
    exact htotal.sub hresting (by norm_num) (by norm_num) (by norm_num)
  · cases hf

/-- A table is in range if each of its lines is. -/
theorem table_inRange {text : String} {f : List Char → Option Entry} (h : ModerateText text.toList)
    (hline : ∀ line, ModerateText line → ∀ e, f line = some e → e.2.Forall IsField) :
    ∀ e ∈ (lines text.toList).filterMap f, e.2.Forall IsField := by
  intro e he
  obtain ⟨line, hmem, hentry⟩ := List.mem_filterMap.1 he
  exact hline line (h.line hmem) e hentry

theorem processorLine_inRange {e : Entry} (h : ModerateText line)
    (he : processorLine? line = some e) : e.2.Forall IsField := by
  unfold processorLine? at he
  split at he
  · cases he
  · next label columns hwords =>
    have hcolumns : ∀ w ∈ columns, ModerateText w := fun w hw =>
      h.word (hwords ▸ List.mem_cons_of_mem label hw)
    dsimp only at he
    split at he
    · obtain ⟨f, hf, rfl⟩ := Option.map_eq_some_iff.1 he
      exact processorFields_inRange hcolumns hf
    · cases he

theorem diskLine_inRange {e : Entry} (h : ModerateText line) (he : diskLine? line = some e) :
    e.2.Forall IsField := by
  unfold diskLine? at he
  split at he
  · next hwords =>
    have hcolumn : ∀ w ∈ words line, ∀ v, Value.read? w = some v → IsField v :=
      fun w hw v hv => ((h.word hw).read hv).isField
    have hbytes : ∀ w ∈ words line, ∀ v, (Value.read? w).map (·.scale sectorBytes) = some v →
        IsField v := by
      intro w hw v hv
      obtain ⟨column, hread, rfl⟩ := Option.map_eq_some_iff.1 hv
      exact isField_of_le ((h.word hw).read hread).sectors (by norm_num)
    rw [hwords] at hcolumn hbytes
    split at he
    · cases he
    · rw [Option.some.injEq] at he
      subst he
      refine ((((((Fields.forall_empty.setIfSome _ (hcolumn _ ?_)).setIfSome _
        (hbytes _ ?_)).setIfSome _ (hcolumn _ ?_)).setIfSome _ (hcolumn _ ?_)).setIfSome _
        (hbytes _ ?_)).setIfSome _ (hcolumn _ ?_)).setIfSome _ (hcolumn _ ?_) <;> simp
  · cases he

theorem interfaceLine_inRange {e : Entry} (h : ModerateText line)
    (he : interfaceLine? line = some e) : e.2.Forall IsField := by
  simp only [interfaceLine?, Option.bind_eq_bind, Option.bind_eq_some_iff] at he
  obtain ⟨⟨name, rest⟩, hcut, he⟩ := he
  have hrest : ModerateText rest := h.of_part (Text.stands_of_cutFirst rfl hcut)
  split at he
  · cases he
  · rw [Option.some.injEq] at he
    subst he
    refine List.foldlRecOn interfaceColumns _ (motive := Fields.Forall IsField)
      Fields.forall_empty fun f hf c _ => ?_
    exact hf.setIfSome c.2 fun v hv => (hrest.column hv).isField

theorem transportFields_inRange {text : String} {f : Fields} (h : ModerateText text.toList)
    (hf : transportFields? text = some f) : f.Forall IsField := by
  unfold transportFields? at hf
  split at hf
  · next names values rest heq =>
    rw [Option.some.injEq] at hf
    subst hf
    have hmem : values ∈ (lines text.toList).filterMap (afterLead? "Tcp:") := by simp [heq]
    obtain ⟨line, hline, hvalues⟩ := List.mem_filterMap.1 hmem
    have hmoderate : ModerateText values :=
      (h.line hline).afterLead (show "Tcp:".toList = "Tcp".toList ++ [':'] from rfl) rfl hvalues
    refine Fields.forall_ofList fun e he => ?_
    obtain ⟨⟨name, w⟩, hw, he⟩ := List.mem_filterMap.1 he
    obtain ⟨v, hv, rfl⟩ := Option.map_eq_some_iff.1 he
    exact ((hmoderate.word (List.of_mem_zip hw).2).read hv).isField
  · cases hf

theorem processStat_inRange {text name : String} {ticks : Value} (h : ModerateText text.toList)
    (hstat : processStat? text = some (name, ticks)) : IsField ticks := by
  obtain ⟨⟨before, rest⟩, hfirst, hstat⟩ := Option.bind_eq_some_iff.1 hstat
  obtain ⟨⟨between, columns⟩, hlast, hstat⟩ := Option.bind_eq_some_iff.1 hstat
  obtain ⟨user, huser, hstat⟩ := Option.bind_eq_some_iff.1 hstat
  obtain ⟨system, hsystem, hstat⟩ := Option.bind_eq_some_iff.1 hstat
  obtain ⟨-, rfl⟩ := Prod.mk.inj (Option.some.inj hstat)
  have hcolumns : ModerateText columns := by
    refine h.of_part ?_
    have hrest : rest = between ++ ')' :: columns := Text.eq_of_cutLast hlast
    rw [(Text.eq_of_cutFirst hfirst).1, hrest, ← List.cons_append, ← List.append_assoc]
    exact Text.stands_behind _ (.inr rfl) columns
  refine isField_of_le (k := 254) ?_ (by norm_num)
  rw [Value.number_add]
  exact ((hcolumns.column huser).mono (by norm_num)).add_small (hcolumns.column hsystem)
    (by norm_num) (by norm_num) (by norm_num)

theorem residentBytes_inRange {text : String} {v : Value} (h : ModerateText text.toList)
    (hv : residentBytes? text = some v) : IsField v := by
  simp only [residentBytes?, Option.bind_eq_bind, Option.bind_eq_some_iff, Option.some.injEq] at hv
  obtain ⟨rest, hrest, size, hsize, rfl⟩ := hv
  obtain ⟨line, hline, hlead⟩ := List.exists_of_findSome?_eq_some hrest
  have hmoderate : ModerateText rest :=
    (h.line hline).afterLead (show "VmRSS:".toList = "VmRSS".toList ++ [':'] from rfl) rfl hlead
  exact isField_of_le (hmoderate.firstNumber hsize).kibibytes (by norm_num)

end Tables

/-! ### Files -/

def ModerateFiles (files : Files) : Prop :=
  ∀ p text, files.read p = .ok text → ModerateText text.toList

variable {files : Files}

theorem read_of_readText {p : Path} {text : String} (h : readText files p = .ok text) :
    files.read p = .ok text := by
  unfold readText at h
  split at h
  · next text' hread =>
    rw [hread]
    cases h
    rfl
  · cases h

theorem exists_text_of_map {α : Type} {p : Path} {f : String → α} {a : α}
    (h : (readText files p).map f = .ok a) : ∃ text, files.read p = .ok text ∧ f text = a := by
  cases hread : readText files p with
  | error e =>
    rw [hread] at h
    cases h
  | ok text =>
    rw [hread] at h
    exact ⟨text, read_of_readText hread, Except.ok.inj h⟩

theorem exists_text_of_bind {α : Type} {p : Path} {f : String → Except SourceError α} {a : α}
    (h : (readText files p).bind f = .ok a) : ∃ text, files.read p = .ok text ∧ f text = .ok a := by
  cases hread : readText files p with
  | error e =>
    rw [hread] at h
    cases h
  | ok text =>
    rw [hread] at h
    exact ⟨text, read_of_readText hread, h⟩

/-! ### Processes -/

theorem readProcess_inRange {root : Path} {pid : Nat} {e : Entry} (h : ModerateFiles files)
    (hpid : pid < 2 ^ 32) (he : readProcess files root pid = .entry e) : e.2.Forall IsField := by
  have hid : IsField (Float.ofNat pid) :=
    isField_of_le (Double.spans_natCast (by omega) (by norm_num)) (by norm_num)
  unfold readProcess at he
  dsimp only at he
  split at he
  · cases he
  · next text hread =>
    split at he
    · cases he
    · next name ticks hstat =>
      cases he
      have hticks : IsField ticks := processStat_inRange (h _ text hread) hstat
      refine ((Fields.forall_empty.set _ hid).set _ hticks).setIfSome _ fun v hv => ?_
      split at hv
      · next status hstatus => exact residentBytes_inRange (h _ status hstatus) hv
      · cases hv

theorem readProcesses_inRange {root : Path} {entries : List Entry} (h : ModerateFiles files)
    (hentries : (readProcesses files root).result = .ok entries) :
    ∀ e ∈ entries, e.2.Forall IsField := by
  unfold readProcesses at hentries
  split at hentries
  · cases hentries
  · cases hentries
    intro e he
    obtain ⟨reading, hreading, hentry⟩ := List.mem_filterMap.1 he
    obtain ⟨pid, hpid, rfl⟩ := List.mem_map.1 hreading
    dsimp only at hentry
    split at hentry
    · next hprocess =>
      cases hentry
      exact readProcess_inRange h (lt_of_mem_processIds hpid) hprocess
    · cases hentry

/-! ### Thermal zones -/

theorem readZones_inRange {root : Path} (h : ModerateFiles files) (zones : List (Nat × String))
    (taken : List String) : ∀ e ∈ (readZones files root taken zones).1, e.2.Forall IsField := by
  induction zones generalizing taken with
  | nil =>
    intro e he
    cases he
  | cons zone rest ih =>
    unfold readZones
    dsimp only
    split
    · exact ih taken
    · next t ht =>
      intro e he
      rcases List.mem_cons.1 he with rfl | he
      · refine Fields.forall_empty.set _ ?_
        unfold zoneTemperature? at ht
        split at ht
        · next text hread =>
          exact (((h _ text hread).of_part (Text.stands_trim _)).read ht).isField
        · cases ht
      · exact ih _ e he

/-! ### All families -/

/-- Whatever the kernel answers, every field is in range. -/
theorem entries_inRange (h : ModerateFiles files) (r : Roots) (family : Family) {entries : List Entry}
    (hentries : (r.entries files family).result = .ok entries) :
    ∀ e ∈ entries, e.2.Forall IsField := by
  cases family with
  | memory =>
    obtain ⟨text, hread, rfl⟩ := exists_text_of_map hentries
    intro e he
    rw [List.mem_singleton.1 he]
    exact memoryFields_inRange (h _ text hread)
  | cpu =>
    obtain ⟨text, hread, htable⟩ := exists_text_of_bind hentries
    dsimp only at htable
    split at htable
    · cases htable
    · cases htable
      exact table_inRange (h _ text hread) fun _ hline _ => processorLine_inRange hline
  | disk =>
    obtain ⟨text, hread, rfl⟩ := exists_text_of_map hentries
    exact table_inRange (h _ text hread) fun _ hline _ => diskLine_inRange hline
  | network =>
    obtain ⟨text, hread, rfl⟩ := exists_text_of_map hentries
    exact table_inRange (h _ text hread) fun _ hline _ => interfaceLine_inRange hline
  | process =>
    exact readProcesses_inRange h hentries
  | thermal =>
    replace hentries : (readThermalZones files r.sys).result = .ok entries := hentries
    unfold readThermalZones at hentries
    dsimp only at hentries
    split at hentries
    · cases hentries
    · cases hentries
      exact readZones_inRange h _ []
  | tcp =>
    obtain ⟨text, hread, htable⟩ := exists_text_of_bind hentries
    split at htable
    · next f hfields =>
      cases htable
      intro e he
      rw [List.mem_singleton.1 he]
      exact transportFields_inRange (h _ text hread) hfields
    · cases htable

theorem reading_inRange (h : ModerateFiles files) (r : Roots) (read : Read)
    {snapshots : List Snapshot} (hread : (r.reading files read).result = .ok snapshots) :
    ∀ s ∈ snapshots, s.fields.Forall IsField := by
  replace hread : ((r.entries files read.family).result).map
      (fun entries => (entries.filter fun e => read.selector.admits e.1).map fun e =>
        (⟨e.1, e.2⟩ : Snapshot)) = .ok snapshots := hread
  cases hentries : (r.entries files read.family).result with
  | error e =>
    rw [hentries] at hread
    cases hread
  | ok entries =>
    rw [hentries] at hread
    cases hread
    intro s hs
    obtain ⟨e, he, rfl⟩ := List.mem_map.1 hs
    exact entries_inRange h r read.family hentries e (List.mem_of_mem_filter he)

end Kernel

end HostTelemetry
