import HostTelemetry.Proofs.BodyReading
import HostTelemetry.Proofs.JsonReading
import HostTelemetry.Proofs.LayoutReading
import HostTelemetry.Proofs.PushHistory

/-!
# Decoding a body

A body that is read as a structured text and taken apart member by member is the body that was
written: its settings, its instances in their order, the timestamps of an instance in ascending
order and the points of a timestamp in the order in which they were pushed. So a text belongs to
one body only.
-/

namespace HostTelemetry.Wire

/-! ### The decoder -/

namespace Json

def member? (v : Json) (name : String) : Option Json := v.members.lookup name

def text? : Json → Option String
  | .text s => some s
  | _ => none

def integer? : Json → Option Int
  | .number digits => Decimal.readInteger? digits
  | _ => none

def double? : Json → Option Float
  | .number digits => Decimal.readNumber? digits
  | _ => none

def list? : Json → Option (List Json)
  | .list items => some items
  | _ => none

def object? : Json → Option (List (String × Json))
  | .object members => some members
  | _ => none

/-- A text that may be missing, and is nothing else. -/
def optionalText? (v : Json) (name : String) : Option (Option String) :=
  match v.member? name with
  | none => some none
  | some m => m.text?.map some

end Json

def Point.ofJson? (v : Json) : Option Point := do
  let metric ← (← v.member? "m").text?
  let value ← (← v.member? "v").double?
  return ⟨metric, value⟩

def PointSet.ofJson? (v : Json) : Option PointSet := do
  let timestamp ← (← v.member? "t").integer?
  let points ← (← (← v.member? "metricDataPointSet").list?).mapM Point.ofJson?
  return ⟨timestamp, points⟩

def Timeline.ofMember? (m : String × Json) : Option (Int × PointSet) := do
  let timestamp ← Decimal.readInteger? m.1.toList
  let set ← PointSet.ofJson? m.2
  return (timestamp, set)

/-- An instance under its name. -/
def InstanceData.ofMember? (m : String × Json) : Option InstanceData := do
  let name ← (← m.2.member? "in").text?
  let component ← m.2.optionalText? "cn"
  let timeline ← (← (← m.2.member? "dit").object?).mapM Timeline.ofMember?
  if name = m.1 then some ⟨name, component, timeline⟩ else none

def Body.ofJson? (v : Json) : Option Body := do
  let license ← (← v.member? "licenseKey").text?
  let user ← (← v.member? "userName").text?
  let data ← v.member? "data"
  let project ← (← data.member? "projectName").text?
  let dataUser ← (← data.member? "userName").text?
  let instances ← (← (← data.member? "idm").object?).mapM InstanceData.ofMember?
  let system ← data.optionalText? "systemName"
  let interval ← data.optionalText? "si"
  return ⟨license, user, project, dataUser, instances, system, interval⟩

def Body.decode? (text : String) : Option Body := (Json.read? text).bind Body.ofJson?

/-! ### What is decoded -/

theorem mapM_map {α β : Type} {f : α → β} {g : β → Option α} {l : List α}
    (h : ∀ a ∈ l, g (f a) = some a) : (l.map f).mapM g = some l := by
  induction l with
  | nil => rfl
  | cons a l ih =>
    obtain ⟨ha, hl⟩ := List.forall_mem_cons.1 h
    rw [List.map_cons, List.mapM_cons, ha, ih hl]
    rfl

theorem Point.ofJson?_json {p : Point} (h : p.value.isFinite = true) :
    Point.ofJson? p.json = some p := by
  have hvalue : (Json.double p.value).double? = some p.value := by
    rw [Json.double, if_pos h]
    exact Decimal.readNumber?_wire h
  simp [Point.ofJson?, Point.json, Json.member?, Json.members, Json.text?, List.lookup_cons, hvalue]

theorem PointSet.ofJson?_json {s : PointSet} (h : ∀ p ∈ s.points, p.value.isFinite = true) :
    PointSet.ofJson? s.json = some s := by
  have hpoints : (s.points.map Point.json).mapM Point.ofJson? = some s.points :=
    mapM_map fun p hp => Point.ofJson?_json (h p hp)
  have ht : (Json.int s.timestamp).integer? = some s.timestamp :=
    Decimal.readInteger?_intDigits s.timestamp
  simp [PointSet.ofJson?, PointSet.json, Json.member?, Json.members, Json.list?, List.lookup_cons,
    hpoints, ht]

theorem Timeline.ofMember?_json {e : Int × PointSet} (h : ∀ p ∈ e.2.points, p.value.isFinite = true) :
    Timeline.ofMember? (Decimal.intText e.1, e.2.json) = some e := by
  have ht : Decimal.readInteger? (Decimal.intText e.1).toList = some e.1 := by
    rw [Decimal.intText, String.toList_ofList, Decimal.readInteger?_intDigits]
  simp [Timeline.ofMember?, ht, PointSet.ofJson?_json h]

/-- The values of all points are finite. -/
def InstanceData.Finite (d : InstanceData) : Prop :=
  ∀ e ∈ d.timeline, ∀ p ∈ e.2.points, p.value.isFinite = true

theorem InstanceData.member?_json (d : InstanceData) :
    d.json.member? "in" = some (.text d.name) ∧
      d.json.member? "cn" = d.component.map .text ∧
      d.json.member? "dit" = some d.timeline.json := by
  rcases d with ⟨name, component, timeline⟩
  cases component with
  | none => simp [InstanceData.json, optionalMember, Json.member?, Json.members, List.lookup_cons]
  | some c => simp [InstanceData.json, optionalMember, Json.member?, Json.members, List.lookup_cons]

theorem InstanceData.ofMember?_json {d : InstanceData} (h : d.Finite) :
    InstanceData.ofMember? (d.name, d.json) = some d := by
  obtain ⟨hin, hcn, hdit⟩ := d.member?_json
  have htimeline : (d.timeline.map fun e => (Decimal.intText e.1, e.2.json)).mapM
      Timeline.ofMember? = some d.timeline :=
    mapM_map fun e he => Timeline.ofMember?_json (h e he)
  have hcomponent : d.json.optionalText? "cn" = some d.component := by
    rw [Json.optionalText?, hcn]
    cases d.component <;> rfl
  simp [InstanceData.ofMember?, hin, hdit, hcomponent, Timeline.json, Json.text?, Json.object?,
    htimeline]

theorem Body.member?_data (b : Body) :
    (b.json.member "data").member? "projectName" = some (.text b.project) ∧
      (b.json.member "data").member? "userName" = some (.text b.dataUser) ∧
      (b.json.member "data").member? "idm" = some b.instances.json ∧
      (b.json.member "data").member? "systemName" = b.system.map .text ∧
      (b.json.member "data").member? "si" = b.interval.map .text := by
  rcases b with ⟨license, user, project, dataUser, instances, system, interval⟩
  cases system <;> cases interval <;>
    simp [Body.json, optionalMember, Json.member, Json.member?, Json.members, List.lookup_cons]

theorem Body.ofJson?_json {b : Body} (h : ∀ d ∈ b.instances, d.Finite) :
    Body.ofJson? b.json = some b := by
  obtain ⟨hproject, huser, hidm, hsystem, hinterval⟩ := b.member?_data
  have hinstances : (b.instances.map fun d => (d.name, d.json)).mapM InstanceData.ofMember? =
      some b.instances :=
    mapM_map fun d hd => InstanceData.ofMember?_json (h d hd)
  have hoptional : ∀ (v : Json) (name : String) (value : Option String),
      v.member? name = value.map .text → v.optionalText? name = some value := by
    intro v name value hv
    rw [Json.optionalText?, hv]
    cases value <;> rfl
  have hdata : b.json.member? "data" = some (b.json.member "data") := by
    simp [Body.json, Json.member, Json.member?, Json.members, List.lookup_cons]
  have hlicense : b.json.member? "licenseKey" = some (.text b.license) := rfl
  have hname : b.json.member? "userName" = some (.text b.user) := by
    simp [Body.json, Json.member?, Json.members, List.lookup_cons]
  simp [Body.ofJson?, hdata, hlicense, hname, hproject, huser, hidm, InstanceMap.json, Json.text?,
    Json.object?, hinstances, hoptional _ _ _ hsystem, hoptional _ _ _ hinterval]

/-! ### No name is repeated -/

theorem Json.proper_double (x : Float) : (Json.double x).Proper := by
  unfold double
  split
  · next h => exact .number (Decimal.isNumber_of_readNumber? (Decimal.readNumber?_wire h))
  · exact .null

theorem Point.proper_json (p : Point) : p.json.Proper := by
  refine .object (by simp) ?_
  simpa using ⟨.text p.metric, Json.proper_double p.value⟩

theorem PointSet.proper_json (s : PointSet) : s.json.Proper := by
  have ht : (Json.int s.timestamp).Proper := .number (Decimal.isNumber_intDigits s.timestamp)
  have hpoints : (Json.list (s.points.map Point.json)).Proper := by
    refine .list ?_
    rw [List.forall_mem_map]
    exact fun p _ => p.proper_json
  refine .object (by simp) ?_
  simpa using ⟨ht, hpoints⟩

theorem Timeline.proper_json {l : Timeline} (hl : l.Sound) : l.json.Proper := by
  refine .object ?_ ?_
  · rw [List.map_map]
    refine hl.ascending.map _ ?_
    intro a b hlt heq
    have := Decimal.intText_injective heq
    omega
  · rw [List.forall_mem_map]
    exact fun e _ => e.2.proper_json

theorem InstanceData.proper_json {d : InstanceData} (hd : d.timeline.Sound) : d.json.Proper := by
  have ht := Timeline.proper_json hd
  have hname := Json.Proper.text d.name
  rcases d with ⟨name, component, timeline⟩
  cases component with
  | none => exact .object (by simp [optionalMember]) (by simpa [optionalMember] using ⟨hname, ht⟩)
  | some c =>
    exact .object (by simp [optionalMember])
      (by simpa [optionalMember] using ⟨hname, .text c, ht⟩)

theorem proper_optionalMember (name : String) (value : Option String) :
    ∀ m ∈ optionalMember name value, m.2.Proper := by
  cases value with
  | none => simp [optionalMember]
  | some s => simpa [optionalMember] using Json.Proper.text s

theorem Body.proper_json {b : Body} (hnames : (b.instances.map (·.name)).Nodup)
    (hsound : ∀ d ∈ b.instances, d.timeline.Sound) : b.json.Proper := by
  have hinstances : b.instances.json.Proper := by
    refine .object ?_ ?_
    · rw [List.map_map]
      exact hnames
    · rw [List.forall_mem_map]
      exact fun d hd => InstanceData.proper_json (hsound d hd)
  have hdata : (Json.object ([("projectName", .text b.project), ("userName", .text b.dataUser),
      ("idm", b.instances.json)] ++ optionalMember "systemName" b.system ++
        optionalMember "si" b.interval)).Proper := by
    refine .object ?_ ?_
    · cases b.system <;> cases b.interval <;> simp [optionalMember]
    · rw [List.forall_mem_append, List.forall_mem_append]
      refine ⟨⟨?_, proper_optionalMember _ _⟩, proper_optionalMember _ _⟩
      simpa using ⟨Json.Proper.text b.project, Json.Proper.text b.dataUser, hinstances⟩
  refine .object (by simp) ?_
  simpa using ⟨Json.Proper.text b.license, Json.Proper.text b.user, hdata⟩

/-! ### Reading back -/

/-- What a reader finds in the text of a body. -/
structure Body.ReadsBack (b : Body) (pushes : List Push) : Prop where
  /-- The text is a structured text, and no object in it repeats a name. -/
  read : Json.read? b.text = some b.json
  proper : b.json.Proper
  decoded : Body.decode? b.text = some b
  system : (b.json.member "data").member? "systemName" = b.system.map .text
  interval : (b.json.member "data").member? "si" = b.interval.map .text
  components : ∀ d ∈ b.instances, d.json.member? "cn" = d.component.map .text
  held : b.instances.Holds pushes

theorem InstanceMap.finite_of_holds {m : InstanceMap} {pushes : List Push} (h : m.Holds pushes)
    (hvalues : ∀ p ∈ pushes, p.point.value.isFinite = true) : ∀ d ∈ m, d.Finite := by
  intro d hd e he p hp
  have hmem : p ∈ d.timeline.pointsAt e.1 :=
    List.mem_flatMap.2 ⟨e, he, by rwa [if_pos rfl]⟩
  rw [h.points d hd e.1] at hmem
  obtain ⟨q, hq, rfl⟩ := List.mem_map.1 hmem
  exact hvalues q (List.mem_of_mem_filter hq)

/-- Whatever the values are, the text of a body is read back. -/
theorem Body.read?_text {b : Body} {pushes : List Push}
    (hb : b.instances = InstanceMap.ofPushes pushes) :
    b.json.Proper ∧ Json.read? b.text = some b.json := by
  have hheld : b.instances.Holds pushes := by
    rw [hb]
    exact InstanceMap.holds_ofPushes pushes
  have hproper := Body.proper_json hheld.nodup hheld.sound
  exact ⟨hproper, Json.read?_toText hproper⟩

theorem Body.readsBack {b : Body} {pushes : List Push}
    (hb : b.instances = InstanceMap.ofPushes pushes)
    (hvalues : ∀ p ∈ pushes, p.point.value.isFinite = true) : b.ReadsBack pushes := by
  have hheld : b.instances.Holds pushes := by
    rw [hb]
    exact InstanceMap.holds_ofPushes pushes
  have hfinite := InstanceMap.finite_of_holds hheld hvalues
  obtain ⟨hproper, hread⟩ := Body.read?_text hb
  have hdata := b.member?_data
  constructor
  · exact hread
  · exact hproper
  · rw [Body.decode?, hread, Option.bind_some]
    exact Body.ofJson?_json hfinite
  · exact hdata.2.2.2.1
  · exact hdata.2.2.2.2
  · exact fun d _ => d.member?_json.2.1
  · exact hheld

/-- The text of a body reads back as that body, and as no other. -/
theorem Body.text_reads_back (b : Body) (pushes : List Push)
    (hb : b.instances = InstanceMap.ofPushes pushes)
    (hvalues : ∀ p ∈ pushes, p.point.value.isFinite = true) :
    b.ReadsBack pushes ∧
      ∀ (b' : Body) (pushes' : List Push), b'.instances = InstanceMap.ofPushes pushes' →
        (∀ p ∈ pushes', p.point.value.isFinite = true) → b'.text = b.text → b' = b := by
  have hback := Body.readsBack hb hvalues
  refine ⟨hback, ?_⟩
  intro b' pushes' hb' hvalues' htext
  have hback' := (Body.readsBack hb' hvalues').decoded
  rw [htext, hback.decoded] at hback'
  exact (Option.some.inj hback').symm

/-- Names with quotes, backslashes, control characters and others, and timestamps out of order. -/
def oddPushes : List Push :=
  [⟨"a\"b\\", some "c", 7, ⟨"\n\x01", 0.1⟩⟩, ⟨"", none, -5, ⟨"größe €", -0.0⟩⟩,
    ⟨"a\"b\\", none, -6, ⟨"", 5e-324⟩⟩]

def oddBody : Body := ⟨"license", "user", "project", "user", InstanceMap.ofPushes oddPushes,
  none, some "300"⟩

theorem finite_oddPushes : ∀ p ∈ oddPushes, p.point.value.isFinite = true := by
  decide +kernel

theorem text_reads_back_odd : oddBody.ReadsBack oddPushes ∧
    ∀ (b' : Body) (pushes' : List Push), b'.instances = InstanceMap.ofPushes pushes' →
      (∀ p ∈ pushes', p.point.value.isFinite = true) → b'.text = oddBody.text → b' = oddBody :=
  oddBody.text_reads_back oddPushes rfl finite_oddPushes

end HostTelemetry.Wire
