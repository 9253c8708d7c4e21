import HostTelemetry.Proofs.BodyReading
import HostTelemetry.Proofs.FlushCourse

/-!
# What a successful flush delivers

Read back, the bodies of a flush hold every row of the store once, under the name that its instance
is published as: the configured name for the system-wide instance, its own name for any other. Two
instances may be published under one name; their rows then stand under it one instance after the
other.
-/

namespace HostTelemetry.Flusher

open Wire (Body Json pointsUnder pointsNamed IsBody)

/-- Whether a row is published under a name. The system-wide instance is the one without a name. -/
def PublishedAs (configured : String) (row : Row) (name : String) : Prop :=
  row.instanceName = "" ∧ name = configured ∨ row.instanceName ≠ "" ∧ name = row.instanceName

instance (configured : String) (row : Row) (name : String) :
    Decidable (PublishedAs configured row name) :=
  inferInstanceAs (Decidable (_ ∨ _))

/-- The rows published under a name, as they stand among the points of a body. -/
def published (configured : String) (rows : List Row) (name : String) : List Json :=
  (rows.filter fun row => PublishedAs configured row name).map fun row =>
    .object [("m", .text row.metric), ("v", .double row.value)]

/-- A body that holds some rows under one timestamp, and nothing else. -/
structure Holds (f : Flusher) (timestamp : Int) (rows : List Row) (body : Body) : Prop where
  points : ∀ name, pointsUnder name body.json = published f.settings.instanceName rows name
  wellFormed : IsBody timestamp body.json

/-- Bodies that hold the rows of a store, each once: the instances as they first appear, and the
rows of one instance as they were inserted. -/
structure Covers (f : Flusher) (timestamp : Int) (rows : List Row) (bodies : List Body) : Prop where
  points : ∃ names, FirstSeen names (rows.map (·.instanceName)) ∧ (rowsUnder names rows).Perm rows ∧
    ∀ name, (bodies.flatMap fun body => pointsUnder name body.json) =
      published f.settings.instanceName (rowsUnder names rows) name
  wellFormed : ∀ body ∈ bodies, IsBody timestamp body.json

theorem publishedAs_iff (f : Flusher) {row : Row} {name : String} :
    PublishedAs f.settings.instanceName row name ↔ f.publishedName row.instanceName = name := by
  unfold PublishedAs publishedName
  by_cases h : row.instanceName = ""
  · simpa [h] using eq_comm
  · have hempty : row.instanceName.isEmpty = false := by simpa using h
    simpa [h, hempty] using eq_comm

theorem published_eq (f : Flusher) (rows : List Row) (name : String) :
    published f.settings.instanceName rows name =
      (rows.filter fun row => f.publishedName row.instanceName == name).map fun row =>
        row.point.json := by
  refine congrArg (List.map _) (List.filter_congr fun row _ => ?_)
  rw [Bool.eq_iff_iff, decide_eq_true_iff, f.publishedAs_iff, beq_iff_eq]

theorem published_flatten (configured : String) (parts : List (List Row)) (name : String) :
    published configured parts.flatten name =
      parts.flatMap fun rows => published configured rows name := by
  rw [published, List.filter_flatten, List.map_flatten, List.map_map, List.flatMap_def]
  rfl

def contentOf (f : Flusher) (timestamp : Int) (rows : List Row) : Body :=
  f.content (f.chunkOf timestamp rows)

theorem contentOf_holds (f : Flusher) (timestamp : Int) (rows : List Row) :
    f.Holds timestamp rows (f.contentOf timestamp rows) where
  points name := by
    have hread : pointsUnder name (f.contentOf timestamp rows).json =
        (pointsNamed (rows.map f.entry) name).map Wire.Point.json :=
      Wire.pointsUnder_ofEntries f.settings.component timestamp rfl name
    rw [hread, published_eq, pointsNamed, List.filter_map, List.map_map, List.map_map]
    rfl
  wellFormed := Wire.isBody_ofEntries f.settings.component timestamp rfl

def bodies (f : Flusher) (timestamp : Int) (rows : List Row) : List Body :=
  (f.groups rows).map (f.contentOf timestamp)

theorem text_bodies (f : Flusher) (timestamp : Int) (rows : List Row) :
    (f.bodies timestamp rows).map Body.text = (f.groups rows).map (f.bodyOf timestamp) := by
  rw [bodies, List.map_map]
  rfl

theorem bodies_covers (f : Flusher) (timestamp : Int) (rows : List Row) :
    f.Covers timestamp rows (f.bodies timestamp rows) where
  points := by
    refine ⟨instancesOf rows, firstSeen_eraseDups _, perm_byInstance rows, fun name => ?_⟩
    have hflat : (f.groups rows).flatten = rowsUnder (instancesOf rows) rows := flatten_groups ..
    rw [← hflat, published_flatten, bodies, List.flatMap_map]
    exact List.flatMap_congr fun g _ => (f.contentOf_holds timestamp g).points name
  wellFormed body hbody := by
    obtain ⟨g, -, rfl⟩ := List.mem_map.1 hbody
    exact (f.contentOf_holds timestamp g).wellFormed

/-! ### Rows that are not mixed with others -/

/-- Bodies were sent for some of the rows only, and the receiver took each row at most once. -/
structure Unmixed (f : Flusher) (timestamp : Int) (rows : List Row) (xs : List Exchange) :
    Prop where
  sent : ∀ text ∈ sentBodies xs, ∃ (part : List Row) (body : Body),
    part.Subperm rows ∧ text = body.text ∧ f.Holds timestamp part body
  taken : ∃ parts : List (List Row), parts.flatten.Subperm rows ∧
    List.Forall₂ (fun part text => ∃ body : Body, text = body.text ∧ f.Holds timestamp part body)
      parts (takenBodies xs)

theorem unmixed_nil (f : Flusher) (timestamp : Int) (rows : List Row) :
    f.Unmixed timestamp rows [] where
  sent := by
    intro text htext
    cases htext
  taken := ⟨[], List.nil_subperm, .nil⟩

theorem Course.unmixed {f : Flusher} {timestamp : Int} {w : Surroundings} {unreadable : Prop}
    {rows : List Row} {report : FlushReport} {xs : List Exchange}
    {r : Except Exit (Except ShippingError FlushReport)}
    (h : f.Course timestamp w unreadable (f.groups rows) report xs r) :
    f.Unmixed timestamp rows xs where
  sent := by
    intro text htext
    obtain ⟨x, hx, rfl⟩ := List.mem_map.1 htext
    obtain ⟨g, hg, hreq, -⟩ := h.sent x hx
    have hsub : g.Subperm rows :=
      (List.sublist_flatten_of_mem hg).subperm.trans (f.perm_groups rows).subperm
    refine ⟨g, f.contentOf timestamp g, hsub, ?_, f.contentOf_holds timestamp g⟩
    rw [hreq]
    rfl
  taken := by
    obtain ⟨first, rest, hgroups, htaken⟩ := h.taken
    refine ⟨first, ?_, ?_⟩
    · have hperm := f.perm_groups rows
      rw [hgroups, List.flatten_append] at hperm
      exact (List.sublist_append_left _ _).subperm.trans hperm.subperm
    · rw [htaken, List.forall₂_map_right_iff, List.forall₂_same]
      intro g _
      exact ⟨f.contentOf timestamp g, rfl, f.contentOf_holds timestamp g⟩

/-! ### A flush that succeeds -/

theorem groups_nil (f : Flusher) : f.groups [] = [] := rfl

variable {β : Type} [Backend β] [LawfulBackend β]

/-- A flush that succeeds has delivered the rows of the store, each once, and reports so; it leaves
the store as it is. -/
theorem flush_covers (f : Flusher) (timestamp : Int) (w : Surroundings) (s : Scene β)
    (report : FlushReport) (h : (f.flush timestamp w s).result = .ok (.ok report)) :
    ∃ bodies : List Body,
      takenBodies (exchanges (f.flush timestamp w s).effects) = bodies.map Body.text ∧
      f.Covers timestamp s.store.contents bodies ∧
      report = ⟨bodies.length, s.store.contents.length,
        (bodies.map fun body => body.text.utf8ByteSize).sum⟩ ∧
      (s.store.contents = [] → exchanges (f.flush timestamp w s).effects = []) ∧
      s.store.Alike (f.flush timestamp w s).scene.store := by
  obtain ⟨halike, -, hc⟩ := f.flush_meets timestamp w s
  rw [h, exchanges_deeds] at hc
  obtain ⟨htaken, hchunks, hpoints, hbytes⟩ := hc.all
  have htext := f.text_bodies timestamp s.store.contents
  refine ⟨f.bodies timestamp s.store.contents, ?_, f.bodies_covers .., ?_, ?_, halike⟩
  · rw [htaken, htext]
  · have hsize : ((f.bodies timestamp s.store.contents).map fun body => body.text.utf8ByteSize) =
        (f.groups s.store.contents).map fun g => (f.bodyOf timestamp g).utf8ByteSize := by
      rw [bodies, List.map_map]
      rfl
    have hlength : (f.bodies timestamp s.store.contents).length =
        (f.groups s.store.contents).length := List.length_map ..
    have hrows := (f.perm_groups s.store.contents).length_eq
    rcases report with ⟨chunks, points, bytes⟩
    dsimp only at hchunks hpoints hbytes
    rw [hsize, hlength, ← hrows, hchunks, hpoints, hbytes]
    simp only [Nat.zero_add]
  · intro hempty
    have hsent := hc.sent
    rw [hempty, groups_nil] at hsent
    rw [List.eq_nil_iff_forall_not_mem]
    intro x hx
    obtain ⟨g, hg, -⟩ := hsent x hx
    exact absurd hg List.not_mem_nil

/-! ### A small flush -/

def smallSettings : FlushSettings where
  url := "https://receiver"
  user := "user"
  license := "license"
  project := "project"
  instanceName := "host"
  timeout := .zero
  retry := .immediate 2
  chunkThreshold := 20
  maxPacketSize := 1000

def small : Flusher := ⟨smallSettings, ⟨"https://receiver/receive", .immediate 2⟩⟩

/-- Two instances, both published under the name of the second. -/
def smallRows : List Row := [⟨"", "cpu", 1⟩, ⟨"host", "memory", 2⟩, ⟨"", "disk", 3⟩]

def smallScene : Scene MemoryBackend := ⟨{ backend := ⟨smallRows⟩ }, {}⟩

/-- A platform with one reading and a receiver that takes everything. -/
def smallWorld : Surroundings where
  source := { read := fun _ _ => ⟨.ok [⟨"", .ofNumbers [("available_bytes", 0)]⟩], []⟩ }

/-- Three instances, of which the system-wide one is published under the name of another. -/
def threeRows : List Row :=
  [⟨"", "cpu", 1⟩, ⟨"database", "queries", 4⟩, ⟨"host", "memory", 2⟩, ⟨"", "disk", 3⟩]

def threeScene : Scene MemoryBackend := ⟨{ backend := ⟨threeRows⟩ }, {}⟩

theorem firstSeen_threeRows :
    FirstSeen ["", "database", "host"] (threeRows.map (·.instanceName)) := by
  have hnames : (threeRows.map (·.instanceName)).eraseDups = ["", "database", "host"] := by decide
  exact hnames ▸ firstSeen_eraseDups _

/-- Rows of the system-wide instance come first under the configured name, and there is none without
a name. -/
theorem flush_covers_small :
    (small.flush 5 smallWorld threeScene).result = .ok (.ok ⟨3, 4, 591⟩) ∧
      ∃ bodies : List Body, bodies.length = 3 ∧
        takenBodies (exchanges (small.flush 5 smallWorld threeScene).effects) =
          bodies.map Body.text ∧
        (bodies.flatMap fun body => pointsUnder "host" body.json) =
          [.object [("m", .text "cpu"), ("v", .double 1)],
            .object [("m", .text "disk"), ("v", .double 3)],
            .object [("m", .text "memory"), ("v", .double 2)]] ∧
        (bodies.flatMap fun body => pointsUnder "database" body.json) =
          [.object [("m", .text "queries"), ("v", .double 4)]] ∧
        (bodies.flatMap fun body => pointsUnder "" body.json) = [] := by
  have hr : (small.flush 5 smallWorld threeScene).result = .ok (.ok ⟨3, 4, 591⟩) := by
    decide +kernel
  obtain ⟨bodies, htaken, hcovers, hreport, -, -⟩ :=
    small.flush_covers 5 smallWorld threeScene ⟨3, 4, 591⟩ hr
  obtain ⟨names, hnames, -, hpoints⟩ := hcovers.points
  obtain rfl := hnames.unique firstSeen_threeRows
  exact ⟨hr, bodies, (congrArg FlushReport.chunks hreport).symm, htaken, hpoints "host",
    hpoints "database", hpoints ""⟩

end HostTelemetry.Flusher
