import HostTelemetry.Proofs.MissingFields
import HostTelemetry.Proofs.NumberOrder

/-!
# The names of thermal zones

A zone goes by its type, or by its number if it has none. Where an earlier zone has this name
already its number is put behind it, and whether the longer name is taken as well is not asked. It is
taken just where it is the type of an earlier zone: longer names of different zones end in different
numbers, so they are never the same.
-/

namespace HostTelemetry.Kernel

open Decimal (natText natDigits)

structure Zone where
  number : Nat
  type : String
deriving DecidableEq

namespace Zone

def plain (z : Zone) : String :=
  if z.type.isEmpty then "thermal_zone" ++ natText z.number else z.type

def numbered (z : Zone) : String := z.plain ++ " " ++ natText z.number

end Zone

/-- The name of a zone that is read after zones with the names `taken`. -/
def nameBehind (taken : List String) (z : Zone) : String := zoneName taken z.number z.type

theorem nameBehind_eq (taken : List String) (z : Zone) :
    nameBehind taken z = if z.plain ∈ taken then z.numbered else z.plain := by
  show (if taken.contains z.plain then z.numbered else z.plain) = _
  by_cases h : z.plain ∈ taken <;> simp [h]

theorem nameBehind_mem_iff (taken : List String) (z : Zone) :
    nameBehind taken z ∈ taken ↔ z.plain ∈ taken ∧ z.numbered ∈ taken := by
  rw [nameBehind_eq]
  by_cases h : z.plain ∈ taken <;> simp [h]

/-- The number at the end of a name is found from behind. -/
theorem Zone.number_eq_of_numbered {y z : Zone} (h : y.numbered = z.numbered) :
    y.number = z.number := by
  have hdigits (name : String) (n : Nat) :
      ((name ++ " " ++ natText n).toList.reverse.takeWhile Char.isDigit).reverse = natDigits n := by
    have hname : (name ++ " " ++ natText n).toList.reverse =
        (natDigits n).reverse ++ ' ' :: name.toList.reverse := by
      simp [String.toList_append, natText]
    have hall : ∀ c ∈ (natDigits n).reverse, c.isDigit = true := fun c hc =>
      Decimal.isDigit_natDigits n c (List.mem_reverse.1 hc)
    rw [hname, List.takeWhile_append_of_pos hall, List.takeWhile_cons_of_neg (by decide),
      List.append_nil, List.reverse_reverse]
  have hy := hdigits y.plain y.number
  have hz := hdigits z.plain z.number
  rw [show y.plain ++ " " ++ natText y.number = z.plain ++ " " ++ natText z.number from h, hz] at hy
  exact Decimal.natDigits_injective hy.symm

/-! ### The names of a list of zones -/

def namesBehind (taken : List String) : List Zone → List String
  | [] => []
  | z :: rest => nameBehind taken z :: namesBehind (taken ++ [nameBehind taken z]) rest

def zoneNames (zones : List Zone) : List String := namesBehind [] zones

theorem namesBehind_concat (taken : List String) (zones : List Zone) (z : Zone) :
    namesBehind taken (zones ++ [z]) =
      namesBehind taken zones ++ [nameBehind (taken ++ namesBehind taken zones) z] := by
  induction zones generalizing taken with
  | nil => simp [namesBehind]
  | cons y rest ih => simp [namesBehind, ih]

theorem zoneNames_concat (zones : List Zone) (z : Zone) :
    zoneNames (zones ++ [z]) = zoneNames zones ++ [nameBehind (zoneNames zones) z] :=
  namesBehind_concat [] zones z

theorem plain_mem_zoneNames {zones : List Zone} {z : Zone} (h : z ∈ zones) :
    z.plain ∈ zoneNames zones := by
  induction zones using List.reverseRecOn with
  | nil => cases h
  | append_singleton zones y ih =>
    rw [zoneNames_concat, List.mem_append]
    rcases List.mem_append.1 h with hz | hz
    · exact .inl (ih hz)
    · obtain rfl := List.mem_singleton.1 hz
      rw [nameBehind_eq]
      by_cases htaken : z.plain ∈ zoneNames zones <;> simp [htaken]

theorem exists_of_mem_zoneNames {zones : List Zone} {name : String} (h : name ∈ zoneNames zones) :
    ∃ z ∈ zones, name = z.plain ∨ name = z.numbered := by
  induction zones using List.reverseRecOn with
  | nil => cases h
  | append_singleton zones y ih =>
    rw [zoneNames_concat, List.mem_append, List.mem_singleton, nameBehind_eq] at h
    rcases h with hname | rfl
    · obtain ⟨z, hz, hname⟩ := ih hname
      exact ⟨z, List.mem_append_left _ hz, hname⟩
    · refine ⟨y, List.mem_append_right _ List.mem_cons_self, ?_⟩
      by_cases htaken : y.plain ∈ zoneNames zones <;> simp [htaken]

/-- A name with a number of its own at the end is taken only by the type of a zone. -/
theorem numbered_mem_zoneNames {zones : List Zone} {z : Zone}
    (h : ∀ y ∈ zones, y.number ≠ z.number) :
    z.numbered ∈ zoneNames zones ↔ ∃ y ∈ zones, y.plain = z.numbered := by
  constructor
  · intro hmem
    obtain ⟨y, hy, hplain | hnumbered⟩ := exists_of_mem_zoneNames hmem
    · exact ⟨y, hy, hplain.symm⟩
    · exact absurd (Zone.number_eq_of_numbered hnumbered).symm (h y hy)
  · rintro ⟨y, hy, hplain⟩
    rw [← hplain]
    exact plain_mem_zoneNames hy

/-- A zone whose two names both belong to zones before it. -/
def Clash (earlier : List Zone) (z : Zone) : Prop :=
  z.plain ∈ zoneNames earlier ∧ ∃ y ∈ earlier, y.plain = z.numbered

def ClashFree (zones : List Zone) : Prop :=
  ∀ earlier z, earlier ++ [z] <+: zones → ¬Clash earlier z

theorem clashFree_concat (zones : List Zone) (z : Zone) :
    ClashFree (zones ++ [z]) ↔ ClashFree zones ∧ ¬Clash zones z := by
  unfold ClashFree
  constructor
  · intro h
    exact ⟨fun earlier y hy => h earlier y (hy.trans (List.prefix_append zones [z])),
      h zones z (List.prefix_refl _)⟩
  · rintro ⟨hzones, hz⟩ earlier y hy
    rcases List.prefix_concat_iff.1 hy with heq | hy
    · obtain ⟨rfl, hlast⟩ := List.append_inj' heq rfl
      obtain rfl := List.singleton_inj.1 hlast
      exact hz
    · exact hzones earlier y hy

theorem nodup_zoneNames_iff {zones : List Zone} (h : (zones.map (·.number)).Nodup) :
    (zoneNames zones).Nodup ↔ ClashFree zones := by
  -- From the back, because the name of a zone depends on those before it.
  induction zones using List.reverseRecOn with
  | nil => simp [zoneNames, namesBehind, ClashFree]
  | append_singleton zones z ih =>
    rw [List.map_append, List.map_singleton, List.nodup_append_comm, List.singleton_append,
      List.nodup_cons] at h
    obtain ⟨hnumber, hzones⟩ := h
    have hother : ∀ y ∈ zones, y.number ≠ z.number := fun y hy heq =>
      hnumber (List.mem_map.2 ⟨y, hy, heq⟩)
    rw [zoneNames_concat, List.nodup_append_comm, List.singleton_append, List.nodup_cons,
      nameBehind_mem_iff, numbered_mem_zoneNames hother, ih hzones, clashFree_concat, and_comm]
    rfl

/-! ### The zones of a directory -/

def thermalDirectory (sys : Path) : Path := sys ++ ["class", "thermal"]

def zoneReadings (files : Files) (root : Path) (l : List (Nat × String)) : List (Zone × Value) :=
  l.filterMap fun d => (zoneTemperature? files (root ++ [d.2])).map fun t =>
    (⟨d.1, zoneType files (root ++ [d.2])⟩, t)

/-- The zones of a directory that can be read, in the order of their numbers. -/
def thermalZones (files : Files) (sys : Path) (names : List String) : List Zone :=
  (zoneReadings files (thermalDirectory sys) (sortByNumber (names.filterMap zoneNumber?))).map (·.1)

def temperatureFields (t : Value) : Fields := Fields.empty.set "temp_millicelsius" t

variable {files : Files}

theorem entries_readZones (root : Path) (taken : List String) (l : List (Nat × String)) :
    (readZones files root taken l).1 =
      ((namesBehind taken ((zoneReadings files root l).map (·.1))).zip
        ((zoneReadings files root l).map fun reading => temperatureFields reading.2)) := by
  induction l generalizing taken with
  | nil => rfl
  | cons d rest ih =>
    obtain ⟨number, directory⟩ := d
    unfold readZones zoneReadings
    dsimp only
    cases ht : zoneTemperature? files (root ++ [directory]) with
    | none =>
      rw [List.filterMap_cons_none (by rw [ht]; rfl)]
      exact ih taken
    | some t =>
      rw [List.filterMap_cons_some (by rw [ht]; rfl)]
      dsimp only
      rw [ih]
      rfl

theorem length_namesBehind (taken : List String) (zones : List Zone) :
    (namesBehind taken zones).length = zones.length := by
  induction zones generalizing taken with
  | nil => rfl
  | cons z rest ih => simp [namesBehind, ih]

theorem reading_zones (r : Roots) {names : List String}
    (hlist : files.list (thermalDirectory r.sys) = .ok names) :
    ∃ snapshots, (r.reading files ⟨.thermal, .all⟩).result = .ok snapshots ∧
      snapshots.map (·.instanceName) = zoneNames (thermalZones files r.sys names) ∧
      ∀ s ∈ snapshots, (s.field? "temp_millicelsius").isSome = true := by
  have hentries : (readThermalZones files r.sys).result = .ok (readZones files
      (thermalDirectory r.sys) [] (sortByNumber (names.filterMap zoneNumber?))).1 := by
    unfold readThermalZones
    dsimp only
    rw [show r.sys ++ ["class", "thermal"] = thermalDirectory r.sys from rfl, hlist]
  refine ⟨(readZones files (thermalDirectory r.sys) []
    (sortByNumber (names.filterMap zoneNumber?))).1.map fun e => ⟨e.1, e.2⟩, ?_, ?_, ?_⟩
  · rw [r.reading_all]
    unfold Roots.entries
    dsimp only
    rw [hentries]
    rfl
  · rw [entries_readZones, List.map_map]
    exact List.map_fst_zip (by simp [length_namesBehind])
  · intro s hs
    obtain ⟨e, he, rfl⟩ := List.mem_map.1 hs
    rw [entries_readZones] at he
    obtain ⟨reading, -, hfields⟩ := List.mem_map.1 (List.of_mem_zip he).2
    rw [show Snapshot.field? ⟨e.1, e.2⟩ "temp_millicelsius" =
      (e.2.get? "temp_millicelsius").map (·.number) from rfl, ← hfields]
    rfl

theorem series_temperatures {snapshots : List Snapshot}
    (h : ∀ s ∈ snapshots, (s.field? "temp_millicelsius").isSome = true) :
    (deriveInstantaneous thermalSpec snapshots).map Row.series =
      (snapshots.map (·.instanceName)).map (·, "Thermal Temperature") := by
  rw [FamilySpec.deriveInstantaneous_eq, thermalSpec.mergeMembers_of_none rfl,
    thermalSpec.series_contributions_of_single rfl fun _ => rfl]
  show (snapshots.filter fun s => (s.field? "temp_millicelsius").isSome).map _ = _
  rw [List.filter_eq_self.2 h, List.map_map]
  rfl

theorem numbers_thermalZones (files : Files) (sys : Path) {names : List String}
    (h : ((names.filterMap zoneNumber?).map (·.1)).Nodup) :
    ((thermalZones files sys names).map (·.number)).Nodup := by
  have hdistinct : ((sortByNumber (names.filterMap zoneNumber?)).map (·.1)).Nodup :=
    ((perm_sortByNumber _).map _).nodup_iff.2 h
  unfold thermalZones zoneReadings
  rw [List.map_map, List.map_filterMap, List.Nodup, List.pairwise_filterMap]
  refine (List.pairwise_map.1 hdistinct).imp fun hne m hm n hn => ?_
  obtain ⟨reading, hreading, rfl⟩ := Option.map_eq_some_iff.1 hm
  obtain ⟨reading', hreading', rfl⟩ := Option.map_eq_some_iff.1 hn
  obtain ⟨t, -, rfl⟩ := Option.map_eq_some_iff.1 hreading
  obtain ⟨t', -, rfl⟩ := Option.map_eq_some_iff.1 hreading'
  exact hne

/-- Zones of different numbers have different instances, and their temperatures different series,
just where no zone has both of its names taken: the plain one by any zone before it, and the one with
its number by a zone whose type is spelled like that. -/
theorem zone_names_distinct_iff (r : Roots) {names : List String}
    (hlist : files.list (thermalDirectory r.sys) = .ok names)
    (hnumbers : ((names.filterMap zoneNumber?).map (·.1)).Nodup) :
    ∃ snapshots, (r.reading files ⟨.thermal, .all⟩).result = .ok snapshots ∧
      ((snapshots.map (·.instanceName)).Nodup ↔ ClashFree (thermalZones files r.sys names)) ∧
      (((deriveInstantaneous thermalSpec snapshots).map Row.series).Nodup ↔
        ClashFree (thermalZones files r.sys names)) := by
  obtain ⟨snapshots, hresult, hnames, htemperature⟩ := reading_zones r hlist
  have hiff := nodup_zoneNames_iff (numbers_thermalZones files r.sys hnumbers)
  refine ⟨snapshots, hresult, ?_, ?_⟩
  · rw [hnames, hiff]
  · have hpair : Function.Injective fun name : String => (name, "Thermal Temperature") :=
      fun _ _ heq => (Prod.mk.inj heq).1
    rw [series_temperatures htemperature, List.nodup_map_iff hpair, hnames, hiff]

/-- The files of thermal zones `0, 1, …` with these types. -/
def zoneTree (types : List String) : FileTree where
  files := types.zipIdx.flatMap fun (type, number) =>
    let zone := ["sys", "class", "thermal", "thermal_zone" ++ natText number]
    [(zone ++ ["type"], (type ++ "\n").toUTF8), (zone ++ ["temp"], "40000\n".toUTF8)]
  directories := []

theorem zone_names_distinct_iff_repeated :
    let files := (zoneTree ["x", "x", "", "x"]).toFiles
    let names := ["thermal_zone0", "thermal_zone1", "thermal_zone2", "thermal_zone3"]
    files.list (thermalDirectory ["sys"]) = .ok names ∧
      ((names.filterMap zoneNumber?).map (·.1)).Nodup ∧
      zoneNames (thermalZones files ["sys"] names) = ["x", "x 1", "thermal_zone2", "x 3"] ∧
      ClashFree (thermalZones files ["sys"] names) := by
  intro files names
  have hlist : files.list (thermalDirectory ["sys"]) = .ok names := by decide +kernel
  have hnumbers : ((names.filterMap zoneNumber?).map (·.1)).Nodup := by decide +kernel
  have hzones : zoneNames (thermalZones files ["sys"] names) =
      ["x", "x 1", "thermal_zone2", "x 3"] := by
    decide +kernel
  obtain ⟨snapshots, hresult, hiff, -⟩ := zone_names_distinct_iff ⟨["proc"], ["sys"]⟩ hlist hnumbers
  obtain ⟨snapshots', hresult', hnames, -⟩ := reading_zones ⟨["proc"], ["sys"]⟩ hlist
  obtain rfl := Except.ok.inj (hresult.symm.trans hresult')
  refine ⟨hlist, hnumbers, hzones, hiff.1 ?_⟩
  rw [hnames, hzones]
  decide

/-- Of the types `x 2`, `x` and `x` the last one gets its number, and two zones are called `x 2`. -/
theorem not_zone_names_distinct :
    ¬∀ (r : Roots) (files : Files) (names : List String),
      files.list (thermalDirectory r.sys) = .ok names →
      ((names.filterMap zoneNumber?).map (·.1)).Nodup →
      ∀ snapshots, (r.reading files ⟨.thermal, .all⟩).result = .ok snapshots →
        (snapshots.map (·.instanceName)).Nodup := by
  intro h
  have hlist : (zoneTree ["x 2", "x", "x"]).toFiles.list (thermalDirectory ["sys"]) =
      .ok ["thermal_zone0", "thermal_zone1", "thermal_zone2"] := by
    decide +kernel
  obtain ⟨snapshots, hresult, hnames, -⟩ := reading_zones ⟨["proc"], ["sys"]⟩ hlist
  have hdistinct := h _ _ _ hlist (by decide +kernel) snapshots hresult
  rw [hnames, show zoneNames (thermalZones (zoneTree ["x 2", "x", "x"]).toFiles ["sys"]
    ["thermal_zone0", "thermal_zone1", "thermal_zone2"]) = ["x 2", "x", "x 2"] by
      decide +kernel] at hdistinct
  revert hdistinct
  decide

end HostTelemetry.Kernel
