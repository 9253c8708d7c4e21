import HostTelemetry.Proofs.ChunkSizes
import HostTelemetry.Proofs.FlushCoverage
import HostTelemetry.Settings

/-!
# The ceiling

The threshold counts points and the ceiling counts whole bodies, so a chunk may be too large
although each of its records would fit alone. The length of a body tells when: a ceiling that leaves
room for the points below the threshold, for their commas and for the names that so many points can
have is never missed, however many rows and instances there are.
-/

namespace HostTelemetry

/-! ### The length of a point -/

namespace Wire

theorem length_le_byteLength (s : List Char) : s.length ≤ byteLength s := by
  induction s with
  | nil => exact Nat.zero_le _
  | cons c s ih =>
    have hpos := c.utf8Size_pos
    rw [byteLength_cons, List.length_cons]
    omega

theorem three_le_length_positional (l : Decimal.Layout) (hpoint : l.keepPoint = true)
    {digits : List Char} (h : digits ≠ []) (exponent : Int) :
    3 ≤ (l.positional digits exponent).length := by
  have hpos := List.length_pos_iff.2 h
  simp only [Decimal.Layout.positional, hpoint, if_true]
  split
  · simp only [List.length_append, List.length_cons, List.length_nil]
    omega
  · split
    · simp only [List.length_cons, List.length_append]
      omega
    · simp only [List.length_append, List.length_cons, List.length_take, List.length_drop]
      omega

theorem three_le_length_scientific {digits : List Char} (h : digits ≠ []) (first : Int) :
    3 ≤ (Decimal.Layout.scientific digits first).length := by
  have hfirst : 0 < (Decimal.natDigits first.natAbs).length := Nat.length_toDigits_pos
  unfold Decimal.Layout.scientific
  split
  · exact absurd rfl h
  · simp only [List.length_append, List.length_cons, List.length_nil]
    omega
  · simp only [List.length_append, List.length_cons]
    omega

theorem three_le_length_numeral (n : Decimal.Numeral) :
    3 ≤ (Decimal.Layout.wire.numeral n).length := by
  have hne : Decimal.natDigits n.significand ≠ [] := Nat.toDigits_ne_nil
  simp only [Decimal.Layout.numeral]
  split
  · exact three_le_length_positional _ rfl hne _
  · exact three_le_length_scientific hne _

theorem three_le_bytes_double (x : Float) : 3 ≤ (Json.double x).bytes := by
  unfold Json.double
  split
  · have hfinite : 3 ≤ (Decimal.Layout.wire.finite x).length := by
      simp only [Decimal.Layout.finite]
      split <;> rw [List.length_append]
      · have hn := three_le_length_numeral ⟨0, 0⟩
        omega
      · have hn := three_le_length_numeral (Decimal.shortest Decimal.Layout.wire.tie x)
        omega
    exact Nat.le_trans hfinite (length_le_byteLength _)
  · decide

theorem two_le_textBytes (s : String) : 2 ≤ Json.textBytes s := by
  have h : ∀ a, 2 ≤ byteLength ('"' :: a ++ ['"']) := by
    intro a
    have hquote : '"'.utf8Size = 1 := rfl
    have hlast : byteLength ['"'] = 1 := by decide
    rw [byteLength_append, byteLength_cons]
    omega
  exact h _

end Wire

/-- The shortest point has sixteen bytes. -/
theorem sixteen_le_point (p : Wire.Point) : 16 ≤ p.json.toText.utf8ByteSize := by
  have hmetric := Wire.two_le_textBytes p.metric
  have hvalue := Wire.three_le_bytes_double p.value
  have hname : Wire.Json.textBytes "m" = 3 ∧ Wire.Json.textBytes "v" = 3 := by decide
  have htext : (Wire.Json.text p.metric).bytes = Wire.Json.textBytes p.metric := rfl
  have hpoint : p.json.toText.utf8ByteSize = p.json.bytes := rfl
  rw [hpoint, Wire.Point.json, Wire.Json.bytes_object]
  simp only [List.map_cons, List.map_nil, Wire.Json.memberBytes_eq, Wire.Json.joined, htext,
    List.sum_cons, List.sum_nil, List.length_cons, List.length_nil, hname.1, hname.2]
  omega

/-! ### Groups that are not full before their last element -/

section Cut

variable {α : Type} {full : List α → Bool}

theorem not_full_dropLast_cut (hnil : full [] = false) (opened l : List α)
    (hopened : full opened = false) (hlast : full opened.dropLast = false) :
    (∀ g ∈ (cut full opened l).1, full g.dropLast = false) ∧
      full (cut full opened l).2.dropLast = false := by
  induction l generalizing opened with
  | nil => exact ⟨by simp [cut], hlast⟩
  | cons a l ih =>
    have hdrop : (opened ++ [a]).dropLast = opened := List.dropLast_concat
    rw [cut]
    split
    · obtain ⟨hgroups, hrest⟩ := ih [] hnil hnil
      exact ⟨List.forall_mem_cons.2 ⟨by rw [hdrop]; exact hopened, hgroups⟩, hrest⟩
    · next hfull => exact ih (opened ++ [a]) (by simpa using hfull) (by rw [hdrop]; exact hopened)

theorem not_full_dropLast (hnil : full [] = false) (l : List α) :
    ∀ g ∈ groups full l, full g.dropLast = false := by
  obtain ⟨hgroups, hrest⟩ := not_full_dropLast_cut hnil [] l hnil hnil
  intro g hg
  rcases List.mem_append.1 hg with hg | hg
  · exact hgroups g hg
  · unfold lastGroup at hg
    split at hg
    · cases hg
    · rw [List.mem_singleton.1 hg]
      exact hrest

end Cut

/-- Attempts that failed end with an error of the destination. -/
theorem Link.Fails.destination {l : Link} {body : String} {xs : List Exchange} {e : ShippingError}
    (h : l.Fails body xs e) : ∃ status message, e = .destination status message := by
  cases h with
  | refused _ _ _ => exact ⟨_, _, rfl⟩
  | usedUp _ _ _ => exact ⟨_, _, rfl⟩

namespace Flusher

open Wire (entryNames InstanceMap Json)

/-! ### The length of the body of a group -/

section Length

variable (f : Flusher) (timestamp : Int)

/-- The names under which some rows are published, each once. -/
def publishedNames (rows : List Row) : List String := entryNames (rows.map f.entry)

/-- The length of a body without instances. -/
def envelope : Nat := (f.bodyOf timestamp []).utf8ByteSize

/-- What a name adds to a body besides its points. -/
def wrapping (name : String) : Nat := InstanceMap.wrapping f.settings.component timestamp name

def bytesOfPoints (rows : List Row) : Nat :=
  (rows.map fun row => row.point.json.toText.utf8ByteSize).sum

/-- The length of a body that holds some rows. -/
def load (rows : List Row) : Nat :=
  f.envelope timestamp + ((f.publishedNames rows).map (f.wrapping timestamp)).sum +
    bytesOfPoints rows + (rows.length - 1)

theorem size_bodyOf {rows : List Row} (h : rows ≠ []) :
    (f.bodyOf timestamp rows).utf8ByteSize = f.load timestamp rows := by
  have hne : rows.map f.entry ≠ [] := by simpa using h
  have hentries : (InstanceMap.ofEntries f.settings.component timestamp
      (rows.map f.entry)).json.bytes =
        2 + ((f.publishedNames rows).map (f.wrapping timestamp)).sum +
          bytesOfPoints rows + (rows.length - 1) := by
    rw [InstanceMap.bytes_ofEntries _ _ hne, List.length_map, List.map_map]
    simp only [bytesOfPoints, Json.bytes, Function.comp_def, entry]
    rfl
  have hbody : (f.bodyOf timestamp rows).utf8ByteSize + 2 = f.envelope timestamp +
      (InstanceMap.ofEntries f.settings.component timestamp (rows.map f.entry)).json.bytes :=
    Wire.bytes_body (f.content (f.chunkOf timestamp rows))
  rw [load]
  omega

theorem load_singleton (row : Row) : f.load timestamp [row] =
    f.envelope timestamp + f.wrapping timestamp (f.publishedName row.instanceName) +
      row.point.json.toText.utf8ByteSize := by
  have hnames : f.publishedNames [row] = [f.publishedName row.instanceName] := rfl
  rw [load, hnames]
  simp [bytesOfPoints]

theorem bytesOf_entries (rows : List Row) :
    Chunker.bytesOf (rows.map f.entry) = bytesOfPoints rows := by
  rw [Chunker.bytesOf_eq, entryBytes, pointSizes, List.map_map]
  rfl

theorem length_le_bytesOfPoints (rows : List Row) : 16 * rows.length ≤ bytesOfPoints rows := by
  induction rows with
  | nil => exact Nat.zero_le _
  | cons row rows ih =>
    have hrow := sixteen_le_point row.point
    simp only [bytesOfPoints, List.map_cons, List.sum_cons, List.length_cons] at ih ⊢
    omega

/-- A further row adds its point, a comma and, under a new name, the name. -/
theorem load_concat_le (rows : List Row) (row : Row) :
    f.load timestamp (rows ++ [row]) ≤ f.load timestamp [row] +
      ((f.publishedNames rows).map (f.wrapping timestamp)).sum + bytesOfPoints rows +
        rows.length := by
  have hnames : ((f.publishedNames (rows ++ [row])).map (f.wrapping timestamp)).sum ≤
      ((f.publishedNames rows).map (f.wrapping timestamp)).sum +
        f.wrapping timestamp (f.publishedName row.instanceName) := by
    rw [publishedNames, List.map_append, List.map_singleton, Wire.entryNames_append,
      List.map_append, List.sum_append, publishedNames]
    split
    · simp
    · simp [entry]
  have hpoints : bytesOfPoints (rows ++ [row]) =
      bytesOfPoints rows + row.point.json.toText.utf8ByteSize := by
    simp [bytesOfPoints]
  rw [load_singleton, load, hpoints, List.length_append, List.length_singleton]
  omega

end Length

/-! ### Room for a chunk -/

section Room

variable (f : Flusher) (timestamp : Int)

/-- The most rows that stay in a group that is not full. -/
def mostOpen : Nat := f.settings.chunkThreshold / 16

/-- A number of bytes in which the names fit that the rows of an open chunk may have. -/
def HasRoom (rows : List Row) (room : Nat) : Prop :=
  ∀ names : List String, names.Nodup →
    (∀ name ∈ names, ∃ row ∈ rows, f.publishedName row.instanceName = name) →
      names.length ≤ f.mostOpen → (names.map (f.wrapping timestamp)).sum ≤ room

/-- The ceiling leaves room for the rest of a chunk around each record. -/
def Roomy (rows : List Row) : Prop :=
  ∃ room, f.HasRoom timestamp rows room ∧ ∀ row ∈ rows,
    (f.bodyOf timestamp [row]).utf8ByteSize + f.settings.chunkThreshold + f.mostOpen + room ≤
      f.settings.maxPacketSize

theorem sum_map_le {names : List String} {weight : String → Nat} {most : Nat}
    (h : ∀ name ∈ names, weight name ≤ most) : (names.map weight).sum ≤ names.length * most := by
  induction names with
  | nil => simp
  | cons name names ih =>
    obtain ⟨hname, hnames⟩ := List.forall_mem_cons.1 h
    have hrest := ih hnames
    rw [List.map_cons, List.sum_cons, List.length_cons, Nat.succ_mul]
    omega

/-- Where every name is short, there is room for as many names as an open chunk may have rows. -/
theorem hasRoom_of_wrapping_le {rows : List Row} {most : Nat}
    (h : ∀ row ∈ rows, f.wrapping timestamp (f.publishedName row.instanceName) ≤ most) :
    f.HasRoom timestamp rows (f.mostOpen * most) := by
  intro names _ hrows hlength
  have hmost : ∀ name ∈ names, f.wrapping timestamp name ≤ most := by
    intro name hname
    obtain ⟨row, hrow, rfl⟩ := hrows name hname
    exact h row hrow
  exact Nat.le_trans (sum_map_le hmost) (Nat.mul_le_mul_right most hlength)

theorem mem_of_mem_groups {rows g : List Row} (hg : g ∈ f.groups rows) {row : Row}
    (hrow : row ∈ g) : row ∈ rows :=
  (f.perm_groups rows).mem_iff.1 (List.mem_flatten.2 ⟨g, hg, hrow⟩)

theorem ne_nil_of_mem {rows g : List Row} (hg : g ∈ f.groups rows) : g ≠ [] :=
  ne_nil_of_mem_groups f.full (byInstance rows) g hg

/-- The points before the last one of a group are below the threshold. -/
theorem bytesOfPoints_dropLast_le {rows g : List Row} (hg : g ∈ f.groups rows) :
    bytesOfPoints g.dropLast ≤ f.settings.chunkThreshold := by
  have hopen := not_full_dropLast (by simp [full, Chunker.bytesOf]) (byInstance rows) g hg
  rw [full, bytesOf_entries] at hopen
  simpa using hopen

theorem load_le_of_roomy {rows g : List Row} (h : f.Roomy timestamp rows)
    (hg : g ∈ f.groups rows) : f.load timestamp g ≤ f.settings.maxPacketSize := by
  obtain ⟨room, hroom, hceiling⟩ := h
  have hpoints := f.bytesOfPoints_dropLast_le hg
  obtain ⟨init, last, rfl⟩ := (List.eq_nil_or_concat' g).resolve_left (f.ne_nil_of_mem hg)
  rw [List.dropLast_concat] at hpoints
  have hlength : init.length ≤ f.mostOpen := by
    have hsixteen := length_le_bytesOfPoints init
    rw [mostOpen]
    omega
  have hnames : ((f.publishedNames init).map (f.wrapping timestamp)).sum ≤ room := by
    refine hroom _ (Wire.nodup_entryNames _) ?_ ?_
    · intro name hname
      obtain ⟨e, he, rfl⟩ := List.mem_map.1 (List.mem_eraseDups.1 hname)
      obtain ⟨row, hrow, rfl⟩ := List.mem_map.1 he
      exact ⟨row, f.mem_of_mem_groups hg (List.mem_append_left _ hrow), rfl⟩
    · have hnames := Wire.length_entryNames_le (init.map f.entry)
      rw [List.length_map] at hnames
      exact Nat.le_trans hnames hlength
  have hlast := hceiling last (f.mem_of_mem_groups hg (by simp))
  rw [f.size_bodyOf timestamp (List.cons_ne_nil last [])] at hlast
  have hload := f.load_concat_le timestamp init last
  omega

end Room

/-! ### The ceiling of a flush -/

theorem Course.tooLarge_inv {f : Flusher} {timestamp : Int} {w : Surroundings} {unreadable : Prop}
    {gs : List (List Row)} {report : FlushReport} {xs : List Exchange} {size most : Nat}
    (h : f.Course timestamp w unreadable gs report xs
      (.ok (.error (.payloadTooLarge size most)))) :
    most = f.settings.maxPacketSize ∧ most < size ∧
      ∃ g ∈ gs, size = (f.bodyOf timestamp g).utf8ByteSize := by
  generalize hr : (Except.ok (Except.error (ShippingError.payloadTooLarge size most)) :
    Except Exit (Except ShippingError FlushReport)) = r at h
  induction h with
  | finished report => cases hr
  | delivered _ _ _ ih =>
    obtain ⟨hmost, hsize, g, hg, heq⟩ := ih hr
    exact ⟨hmost, hsize, g, List.mem_cons_of_mem _ hg, heq⟩
  | failed _ hl =>
    obtain ⟨status, message, rfl⟩ := hl.fails_of_attempts.destination
    cases hr
  | stopped _ _ => cases hr
  | @tooLarge g rest report hlt =>
    simp only [Except.ok.injEq, Except.error.injEq, ShippingError.payloadTooLarge.injEq] at hr
    obtain ⟨hsize, hmost⟩ := hr
    rw [hsize, hmost]
    exact ⟨rfl, hlt, g, List.mem_cons_self .., rfl⟩
  | unread e _ => cases hr

section Flush

variable {β : Type} [Backend β] [LawfulBackend β]

/-- A flush only misses the ceiling with a chunk that is longer than it, and never where the
ceiling leaves room for a chunk around each record. -/
theorem flush_keeps_ceiling (s : Settings) (link : Link) (timestamp : Int) (w : Surroundings)
    (sc : Scene β) :
    let f : Flusher := ⟨s.flushSettings, link⟩
    (∀ size most, (f.flush timestamp w sc).result = .ok (.error (.payloadTooLarge size most)) →
      most = s.maxPacketSize ∧ most < size ∧
        ∃ g ∈ f.groups sc.store.contents, size = (f.bodyOf timestamp g).utf8ByteSize ∧
          size = f.load timestamp g ∧
          bytesOfPoints g.dropLast ≤ s.chunkThreshold ∧
          ((∀ row ∈ sc.store.contents,
            (f.bodyOf timestamp [row]).utf8ByteSize ≤ s.maxPacketSize) → 2 ≤ g.length)) ∧
    (f.Roomy timestamp sc.store.contents →
      ∀ size most, (f.flush timestamp w sc).result ≠
        .ok (.error (.payloadTooLarge size most))) := by
  intro f
  obtain ⟨-, -, hcourse⟩ := f.flush_meets timestamp w sc
  refine ⟨?_, ?_⟩
  · intro size most hr
    rw [hr] at hcourse
    obtain ⟨hmost, hsize, g, hg, hbody⟩ := hcourse.tooLarge_inv
    have hne := f.ne_nil_of_mem hg
    refine ⟨hmost, hsize, g, hg, hbody, hbody.trans (f.size_bodyOf timestamp hne),
      f.bytesOfPoints_dropLast_le hg, ?_⟩
    intro hsingle
    by_contra hshort
    obtain ⟨row, rfl⟩ : ∃ row, g = [row] := by
      refine List.length_eq_one_iff.1 ?_
      have hpos := List.length_pos_iff.2 hne
      omega
    have hfits := hsingle row (f.mem_of_mem_groups hg (List.mem_singleton_self row))
    rw [hmost, hbody] at hsize
    exact absurd hsize (Nat.not_lt.2 hfits)
  · intro hroomy size most hr
    rw [hr] at hcourse
    obtain ⟨hmost, hsize, g, hg, hbody⟩ := hcourse.tooLarge_inv
    have hload := f.load_le_of_roomy timestamp hroomy hg
    rw [hmost, hbody, f.size_bodyOf timestamp (f.ne_nil_of_mem hg)] at hsize
    exact absurd hsize (Nat.not_lt.2 hload)

end Flush

/-! ### Two ceilings -/

/-- Settings whose ceiling is the threshold. -/
def narrow : Settings where
  user := "user"
  license := "license"
  project := "project"
  instanceName := "host"
  chunkThreshold := 200
  maxPacketSize := 200

def receiver : Link := ⟨"https://app.insightfinder.com/api/v2/metric-data-receive", narrow.retry⟩

def twoRows : List Row := [⟨"a", "m", 1⟩, ⟨"b", "m", 1⟩]

def twoScene : Scene MemoryBackend := ⟨{ backend := ⟨twoRows⟩ }, {}⟩

theorem twoRows_fit : ∀ row ∈ twoRows,
    (bodyOf ⟨narrow.flushSettings, receiver⟩ 5 [row]).utf8ByteSize ≤ narrow.maxPacketSize := by
  decide +kernel

theorem narrow_flush : (flush ⟨narrow.flushSettings, receiver⟩ 5 smallWorld twoScene).result =
    .ok (.error (.payloadTooLarge 264 200)) := by
  decide +kernel

/-- Either record fits alone, and the two together are one chunk that does not. -/
theorem ceiling_missed :
    narrow.validate = .ok () ∧
      Link.open? narrow.url narrow.proxy narrow.retry = .ok receiver ∧
      (∀ row ∈ twoRows, (bodyOf ⟨narrow.flushSettings, receiver⟩ 5 [row]).utf8ByteSize ≤
        narrow.maxPacketSize) ∧
      (flush ⟨narrow.flushSettings, receiver⟩ 5 smallWorld twoScene).result =
        .ok (.error (.payloadTooLarge 264 200)) := by
  refine ⟨?_, ?_, twoRows_fit, narrow_flush⟩
  · decide +kernel
  · decide +kernel

/-- The same settings with a ceiling that leaves room. -/
def wide : Settings := { narrow with maxPacketSize := 2000 }

def wideFlusher : Flusher := ⟨wide.flushSettings, receiver⟩

theorem roomy_wide : wideFlusher.Roomy 5 twoRows := by
  refine ⟨wideFlusher.mostOpen * 60, wideFlusher.hasRoom_of_wrapping_le 5 ?_, ?_⟩
  · decide +kernel
  · decide +kernel

theorem flush_keeps_ceiling_wide :
    (∀ size most, (wideFlusher.flush 5 smallWorld twoScene).result ≠
      .ok (.error (.payloadTooLarge size most))) ∧
    ∃ g ∈ groups ⟨narrow.flushSettings, receiver⟩ twoRows,
      264 = (bodyOf ⟨narrow.flushSettings, receiver⟩ 5 g).utf8ByteSize ∧
        264 = load ⟨narrow.flushSettings, receiver⟩ 5 g ∧ 2 ≤ g.length := by
  have hkept := (flush_keeps_ceiling wide receiver 5 smallWorld twoScene).2 roomy_wide
  have hmissed := (flush_keeps_ceiling narrow receiver 5 smallWorld twoScene).1 264 200 narrow_flush
  obtain ⟨-, -, g, hg, hbody, hload, -, hlength⟩ := hmissed
  exact ⟨hkept, g, hg, hbody, hload, hlength twoRows_fit⟩

end Flusher

end HostTelemetry
