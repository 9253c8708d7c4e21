import HostTelemetry.Wire.Json

/-!
# What is sent to the receiver

Points are grouped by instance, in the order in which the instances were first seen, and below an
instance by timestamp in ascending order. The short member names are those that the receiver
expects.
-/

namespace HostTelemetry.Wire

structure Point where
  metric : String
  value : Float
deriving Repr

def Point.json (p : Point) : Json := .object [("m", .text p.metric), ("v", .double p.value)]

structure PointSet where
  timestamp : Int
  points : List Point
deriving Repr

def PointSet.json (s : PointSet) : Json :=
  .object [("t", .int s.timestamp), ("metricDataPointSet", .list (s.points.map Point.json))]

abbrev Timeline := List (Int × PointSet)

/-- Adds a point at a timestamp, keeping the timestamps in ascending order. -/
def Timeline.push (timestamp : Int) (p : Point) : Timeline → Timeline
  | [] => [(timestamp, ⟨timestamp, [p]⟩)]
  | (t, s) :: rest =>
    if timestamp < t then (timestamp, ⟨timestamp, [p]⟩) :: (t, s) :: rest
    else if timestamp = t then (t, { s with points := s.points ++ [p] }) :: rest
    else (t, s) :: Timeline.push timestamp p rest

def Timeline.pointCount (l : Timeline) : Nat := l.foldr (fun e n => e.2.points.length + n) 0

def Timeline.json (l : Timeline) : Json :=
  .object (l.map fun e => (Decimal.intText e.1, e.2.json))

structure InstanceData where
  name : String
  component : Option String
  timeline : Timeline
deriving Repr

def InstanceData.pointCount (d : InstanceData) : Nat := d.timeline.pointCount

/-- A member that is left out if there is no value for it. -/
def optionalMember (name : String) : Option String → List (String × Json)
  | some s => [(name, .text s)]
  | none => []

def InstanceData.json (d : InstanceData) : Json :=
  .object (("in", .text d.name) :: optionalMember "cn" d.component ++ [("dit", d.timeline.json)])

/-- Instances in the order in which they were first seen. -/
abbrev InstanceMap := List InstanceData

namespace InstanceMap

def find? (m : InstanceMap) (name : String) : Option InstanceData :=
  List.find? (fun d => d.name == name) m

def pointCount (m : InstanceMap) : Nat := m.foldr (fun d n => d.pointCount + n) 0

/-- Adds a point. An instance gets its component with its first point. -/
def push (name : String) (component : Option String) (timestamp : Int) (p : Point) :
    InstanceMap → InstanceMap
  | [] => [⟨name, component, Timeline.push timestamp p []⟩]
  | d :: rest =>
    if d.name = name then { d with timeline := d.timeline.push timestamp p } :: rest
    else d :: push name component timestamp p rest

def json (m : InstanceMap) : Json := .object (m.map fun d => (d.name, d.json))

end InstanceMap

structure Body where
  license : String
  user : String
  project : String
  dataUser : String
  instances : InstanceMap
  system : Option String
  /-- The sampling interval in seconds. -/
  interval : Option String

def Body.json (b : Body) : Json :=
  .object [
    ("licenseKey", .text b.license),
    ("userName", .text b.user),
    ("data", .object (
      [("projectName", .text b.project), ("userName", .text b.dataUser),
        ("idm", b.instances.json)] ++
      optionalMember "systemName" b.system ++ optionalMember "si" b.interval))]

end HostTelemetry.Wire
