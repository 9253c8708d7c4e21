import HostTelemetry.Proofs.BodyDecoding
import HostTelemetry.Proofs.FiniteRows
import HostTelemetry.Proofs.ProcessorRows
import HostTelemetry.Proofs.RoundCourse

/-!
# Every point carries a number

The value of a point is written as a number if it is finite, and as null otherwise. What a round
ships was sampled in this round, so that over files of moderate numbers every point carries a number.
A file may also spell out a number that is not finite, and nothing holds it back.
-/

namespace HostTelemetry

/-! ### The kernel as a source -/

theorem Kernel.changing_inRange {moment : List Family → Family → Roots × Files}
    (h : ∀ earlier family, ModerateFiles (moment earlier family).2) (supports : Family → Bool) :
    (changing moment supports).InRange := by
  intro earlier r snapshots hread
  exact reading_inRange (h (earlier.map Read.family) r.family)
    (moment (earlier.map Read.family) r.family).1 r hread

/-! ### Bodies -/

/-- Every point of a body carries a number, whatever name it stands under. -/
def Wire.Numbered (body : Wire.Json) : Prop :=
  ∀ name, ∀ point ∈ Wire.pointsUnder name body, ∃ digits, point.member "v" = .number digits

theorem Wire.member_v_json (p : Wire.Point) : p.json.member "v" = .double p.value := by
  simp [Json.member, Json.members, Point.json, List.lookup_cons]

namespace Flusher

variable (f : Flusher) (timestamp : Int)

def push (row : Row) : Wire.Push :=
  ⟨f.publishedName row.instanceName, f.settings.component, timestamp, row.point⟩

theorem instances_contentOf (rows : List Row) : (f.contentOf timestamp rows).instances =
    Wire.InstanceMap.ofPushes (rows.map (f.push timestamp)) := by
  show Wire.InstanceMap.ofEntries f.settings.component timestamp (rows.map f.entry) = _
  rw [Wire.InstanceMap.ofEntries, Wire.InstanceMap.ofPushes, List.foldl_map, List.foldl_map]
  rfl

theorem read?_bodyOf (rows : List Row) :
    Wire.Json.read? (f.bodyOf timestamp rows) = some (f.contentOf timestamp rows).json :=
  (Wire.Body.read?_text (f.instances_contentOf timestamp rows)).2

/-- A body carries numbers only if and only if its rows are finite. -/
theorem numbered_contentOf (rows : List Row) :
    Wire.Numbered (f.contentOf timestamp rows).json ↔
      ∀ row ∈ rows, row.value.isFinite = true := by
  have hpoints (name : String) :=
    ((f.contentOf_holds timestamp rows).points name).trans (f.published_eq rows name)
  have hmember (row : Row) : row.point.json.member "v" = .double row.value :=
    Wire.member_v_json row.point
  constructor
  · intro h row hrow
    have hmem : row.point.json ∈
        Wire.pointsUnder (f.publishedName row.instanceName) (f.contentOf timestamp rows).json := by
      rw [hpoints]
      exact List.mem_map.2 ⟨row, List.mem_filter.2 ⟨hrow, beq_self_eq_true _⟩, rfl⟩
    obtain ⟨digits, hdigits⟩ := h _ _ hmem
    rw [hmember, Wire.Json.double] at hdigits
    by_contra hinfinite
    rw [if_neg hinfinite] at hdigits
    cases hdigits
  · intro h name point hpoint
    rw [hpoints name] at hpoint
    obtain ⟨row, hrow, rfl⟩ := List.mem_map.1 hpoint
    rw [hmember, Wire.Json.double, if_pos (h row (List.mem_filter.1 hrow).1)]
    exact ⟨_, rfl⟩

end Flusher

/-! ### Rounds -/

namespace Collector

variable {β : Type} (c : Collector)

/-- The store takes nothing but what was sampled. -/
theorem Recorded.mem_sampled {c : Collector} {w : Surroundings} {s : Scene β} {es : List Effect}
    {records : Nat} (h : c.Recorded w s es records) : ∃ sampled,
      (c.sampling.sample w s).result = .ok sampled ∧
        ∀ row ∈ storedRows es, row ∈ sampled.flatMap (·.rows) := by
  obtain ⟨-, sampled, hsampled, hrows⟩ := h
  refine ⟨sampled, hsampled, fun row hrow => ?_⟩
  obtain ⟨recording, hrecording, hstored⟩ := List.mem_filterMap.1 hrow
  have hrow : recording.1 = row := by
    unfold Recording.stored? at hstored
    split at hstored
    · exact Option.some.inj hstored
    · cases hstored
  rw [← hrows, ← hrow]
  exact List.mem_map_of_mem hrecording

variable [Backend β] [LawfulBackend β]

/-- A round whose pass finds finite values only ships numbers only. -/
theorem Course.numbered {c : Collector} {start : Time} {w : Surroundings} {s t : Scene β}
    {r : Except Exit (Except RoundError RoundReport)} {es : List Effect}
    (h : c.Course start w s r es t)
    (hfinite : ∀ sampled,
      (c.sampling.sample w { s with store := s.store.beginRound.store }).result = .ok sampled →
        ∀ row ∈ sampled.flatMap (·.rows), row.value.isFinite = true) :
    ∀ text ∈ sentBodies (exchanges es),
      ∃ body, Wire.Json.read? text = some body ∧ Wire.Numbered body := by
  intro text htext
  cases h with
  | skipped e _ => cases htext
  | broken e hx =>
    rw [hx] at htext
    cases htext
  | shipped hrec hflush _ =>
    obtain ⟨sampled, hsampled, hmem⟩ := hrec.mem_sampled
    obtain ⟨x, hx, rfl⟩ := List.mem_map.1 htext
    obtain ⟨g, hg, hrequest, -⟩ := hflush.sent x hx
    have hrows : ∀ row ∈ g, row.value.isFinite = true := by
      intro row hrow
      have hstored := (c.flusher.perm_groups _).subset (List.mem_flatten_of_mem hg hrow)
      exact hfinite sampled hsampled row (hmem row hstored)
    rw [hrequest]
    exact ⟨_, c.flusher.read?_bodyOf start.epochMillis g,
      (c.flusher.numbered_contentOf start.epochMillis g).2 hrows⟩

/-- Over files of moderate numbers, every point of every request carries a number. -/
theorem round_ships_numbers (hcatalog : c.sampling.families ⊆ catalog)
    (hwindow : 1 ≤ c.sampling.window.seconds)
    {moment : List Family → Family → Kernel.Roots × Files} {supports : Family → Bool}
    (hmoderate : ∀ earlier family, Kernel.ModerateFiles (moment earlier family).2)
    (start : Time) (w : Surroundings) (hsource : w.source = Kernel.changing moment supports)
    (s : Scene β) (hs : s.store.Settled) :
    ∀ text ∈ sentBodies (exchanges (c.round start w s).effects),
      ∃ body, Wire.Json.read? text = some body ∧ Wire.Numbered body := by
  have hrange : w.source.InRange := hsource ▸ Kernel.changing_inRange hmoderate supports
  have hnumbered := (c.round_meets start w s hs).numbered
    (c.sampling.sample_finite hcatalog hwindow w _ hrange)
  rwa [exchanges_deeds] at hnumbered

/-! ### Two thermal zones -/

/-- The files of two zones, the second one of a given temperature. -/
def zoneTexts (temperature : String) : List (Path × String) :=
  let root := ["", "sys", "class", "thermal"]
  [(root ++ ["thermal_zone0", "type"], "acpitz\n"), (root ++ ["thermal_zone0", "temp"], "45000\n"),
    (root ++ ["thermal_zone1", "type"], "x86_pkg_temp\n"),
    (root ++ ["thermal_zone1", "temp"], temperature)]

def zoneFiles (temperature : String) : Files where
  read p :=
    match (zoneTexts temperature).lookup p with
    | some text => .ok text
    | none => .error .notFound
  list p :=
    if p = ["", "sys", "class", "thermal"] then .ok ["thermal_zone0", "thermal_zone1"]
    else .error .notFound

def zoneWorld (temperature : String) : Surroundings where
  source := Kernel.changing (fun _ _ => (.live, zoneFiles temperature)) fun _ => true

/-- Samples the zones and sends all points in one request. -/
def thermometer : Collector := ⟨⟨[thermalSpec], .ofSeconds 1, false⟩,
  ⟨{ Flusher.smallSettings with chunkThreshold := 1000 }, Flusher.small.link⟩⟩

def emptyScene : Scene MemoryBackend := ⟨{ backend := ⟨[]⟩ }, {}⟩

def zoneBodies (temperature : String) : List String :=
  sentBodies (exchanges (thermometer.round (.ofMillis 5) (zoneWorld temperature) emptyScene).effects)

theorem moderate_zoneFiles : Kernel.ModerateFiles (zoneFiles "61500\n") := by
  have hall : ∀ e ∈ zoneTexts "61500\n", Kernel.isModerateText e.2.toList = true := by
    decide +kernel
  intro p text hread
  simp only [zoneFiles] at hread
  split at hread
  · next text' hlookup =>
    obtain ⟨before, behind, heq, -⟩ := List.lookup_eq_some_iff.1 hlookup
    cases hread
    refine Kernel.moderateText_of_isModerateText (hall (p, text) ?_)
    rw [heq]
    exact List.mem_append_right before (List.mem_cons_self ..)
  · cases hread

theorem round_ships_numbers_zones : (zoneBodies "61500\n").length = 1 ∧
    ∀ text ∈ zoneBodies "61500\n",
      ∃ body, Wire.Json.read? text = some body ∧ Wire.Numbered body := by
  have hcatalog : thermometer.sampling.families ⊆ catalog :=
    by simp [thermometer, catalog]
  have hmoderate : ∀ (_ : List Family) (_ : Family),
      Kernel.ModerateFiles (Kernel.Roots.live, zoneFiles "61500\n").2 :=
    fun _ _ => moderate_zoneFiles
  exact ⟨by decide +kernel, thermometer.round_ships_numbers hcatalog (by decide) hmoderate
    (.ofMillis 5) (zoneWorld "61500\n") rfl emptyScene (.inl rfl)⟩

/-- What is published of the zones if the second one spells out `nan`. -/
def nanRows : List Row :=
  [⟨"acpitz", "Thermal Temperature", 45⟩, ⟨"x86_pkg_temp", "Thermal Temperature", 0 / 0⟩]

theorem round_ships_null : ∃ text ∈ zoneBodies "nan\n",
    ∃ body, Wire.Json.read? text = some body ∧ ¬Wire.Numbered body := by
  have hsent : zoneBodies "nan\n" = [thermometer.flusher.bodyOf 5 nanRows] := by decide +kernel
  refine ⟨_, by rw [hsent]; exact List.mem_singleton_self _, _,
    thermometer.flusher.read?_bodyOf 5 nanRows, ?_⟩
  rw [thermometer.flusher.numbered_contentOf]
  decide +kernel

end Collector

end HostTelemetry
