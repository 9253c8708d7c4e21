import HostTelemetry.Proofs.InstanceMap

/-!
# Reading a body

A reader of a body goes from member to member: below `data` and `idm` stand the entries by
instance, below an entry's `dit` its point sets by timestamp, below `metricDataPointSet` the points.
What it finds is what was pushed, name by name.
-/

namespace HostTelemetry.Wire

/-! ### The reader -/

def Json.members : Json → List (String × Json)
  | .object members => members
  | _ => []

def Json.items : Json → List Json
  | .list items => items
  | _ => []

/-- The first member of a name, or null. -/
def Json.member (v : Json) (name : String) : Json := (v.members.lookup name).getD .null

/-- The entries of a body, by instance. -/
def bodyEntries (body : Json) : List (String × Json) := ((body.member "data").member "idm").members

def pointSets (entry : Json) : List (String × Json) := (entry.member "dit").members

def entryPoints (entry : Json) : List Json :=
  (pointSets entry).flatMap fun set => (set.2.member "metricDataPointSet").items

/-- The points that a body holds under a name. -/
def pointsUnder (name : String) (body : Json) : List Json :=
  ((bodyEntries body).filter fun e => e.1 == name).flatMap fun e => entryPoints e.2

/-- An entry says its name and has points, all under one timestamp. -/
structure IsEntry (timestamp : Int) (name : String) (entry : Json) : Prop where
  named : entry.member "in" = .text name
  inhabited : entryPoints entry ≠ []
  dated : ∃ set, pointSets entry = [(Decimal.intText timestamp, set)] ∧
    set.member "t" = .int timestamp

/-- No two entries of a body have one name, and each is an entry of the timestamp. -/
structure IsBody (timestamp : Int) (body : Json) : Prop where
  distinct : ((bodyEntries body).map (·.1)).Nodup
  entries : ∀ e ∈ bodyEntries body, IsEntry timestamp e.1 e.2

/-! ### Bodies as they are written -/

def Body.text (b : Body) : String := b.json.toText

theorem bodyEntries_json (b : Body) :
    bodyEntries b.json = b.instances.map fun d => (d.name, d.json) := by
  simp [bodyEntries, Json.member, Json.members, Body.json, InstanceMap.json, List.lookup_cons]

theorem member_in_json (d : InstanceData) : d.json.member "in" = .text d.name := by
  simp [Json.member, Json.members, InstanceData.json]

theorem pointSets_json (d : InstanceData) :
    pointSets d.json = d.timeline.map fun e => (Decimal.intText e.1, e.2.json) := by
  rcases d with ⟨name, component, timeline⟩
  cases component with
  | none => simp [pointSets, Json.member, Json.members, InstanceData.json, optionalMember,
      Timeline.json, List.lookup_cons]
  | some c => simp [pointSets, Json.member, Json.members, InstanceData.json, optionalMember,
      Timeline.json, List.lookup_cons]

theorem member_points_json (s : PointSet) :
    (s.json.member "metricDataPointSet").items = s.points.map Point.json := by
  simp [Json.member, Json.members, Json.items, PointSet.json, List.lookup_cons]

theorem member_t_json (s : PointSet) : s.json.member "t" = .int s.timestamp := by
  simp [Json.member, Json.members, PointSet.json]

section Grouped

variable (component : Option String) (timestamp : Int)

theorem entryPoints_instanceOf (name : String) (points : List Point) :
    entryPoints (InstanceMap.instanceOf component timestamp name points).json =
      points.map Point.json := by
  rw [entryPoints, pointSets_json, InstanceMap.instanceOf, List.map_singleton,
    List.flatMap_singleton, member_points_json]

theorem isEntry_instanceOf (name : String) {points : List Point} (h : points ≠ []) :
    IsEntry timestamp name (InstanceMap.instanceOf component timestamp name points).json where
  named := member_in_json _
  inhabited := by
    rw [entryPoints_instanceOf]
    exact fun h0 => h (List.map_eq_nil_iff.1 h0)
  dated := ⟨PointSet.json ⟨timestamp, points⟩, pointSets_json _, member_t_json _⟩

variable {b : Body} {es : List Entry}

theorem bodyEntries_ofEntries (h : b.instances = InstanceMap.ofEntries component timestamp es) :
    bodyEntries b.json = (entryNames es).map fun n =>
      (n, (InstanceMap.instanceOf component timestamp n (pointsNamed es n)).json) := by
  rw [bodyEntries_json, h, InstanceMap.ofEntries_eq, List.map_map]
  rfl

/-- The points that are read under a name are those that were pushed under it. -/
theorem pointsUnder_ofEntries (h : b.instances = InstanceMap.ofEntries component timestamp es)
    (name : String) : pointsUnder name b.json = (pointsNamed es name).map Point.json := by
  have hf := filter_beq_of_nodup (nodup_entryNames es) name
  rw [pointsUnder, bodyEntries_ofEntries component timestamp h, List.filter_map, List.flatMap_map]
  simp only [Function.comp_def]
  rw [hf]
  by_cases hm : name ∈ entryNames es
  · rw [if_pos hm, List.flatMap_singleton]
    exact entryPoints_instanceOf component timestamp name _
  · rw [if_neg hm, pointsNamed_eq_nil hm]
    rfl

theorem isBody_ofEntries (h : b.instances = InstanceMap.ofEntries component timestamp es) :
    IsBody timestamp b.json := by
  have he := bodyEntries_ofEntries component timestamp h
  constructor
  · rw [he, List.map_map]
    simpa [Function.comp_def] using nodup_entryNames es
  · intro e hmem
    rw [he] at hmem
    obtain ⟨n, hn, rfl⟩ := List.mem_map.1 hmem
    exact isEntry_instanceOf component timestamp n (pointsNamed_ne_nil hn)

end Grouped

end HostTelemetry.Wire
