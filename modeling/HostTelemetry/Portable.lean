import HostTelemetry.Counter.Catalog
import HostTelemetry.Counter.Source

/-!
# A source for systems without kernel tables

Counters from the measurements that a system library offers everywhere. Processor use comes as a
share of the time since the last look; summing these shares over time gives ticks that grow, so two
reads tell the same as they do elsewhere. Disks and transport counters are not offered.
-/

namespace HostTelemetry.Portable

structure ProcessorUse where
  name : String
  percent : Float

structure ProcessUse where
  pid : Nat
  name : String
  percent : Float
  residentBytes : Float

structure SensorReading where
  label : String
  celsius : Option Float

structure Measurement where
  totalMemory : Float
  availableMemory : Float
  /-- The first one is the whole system, under the empty name. -/
  processors : List ProcessorUse
  processes : List ProcessUse
  interfaces : List (String × Fields)
  sensors : List SensorReading
  /-- Seconds since the last look at the same family. -/
  elapsed : Float

structure Ticks where
  busy : Float := 0.0
  total : Float := 0.0

structure History where
  processors : List (String × Ticks) := []
  processes : List (Nat × Float) := []

def supports : Family → Bool
  | .disk | .tcp => false
  | .memory | .cpu | .network | .process | .thermal => true

def notOffered (family : Family) : SourceError :=
  .unavailable (family.name ++ " counters are not exposed by sysinfo")

/-- A value held between two bounds; one that is no number becomes the lower bound. -/
def clamp (low high x : Float) : Float := if x > low then (if x < high then x else high) else low

def memoryFields (m : Measurement) : Fields :=
  let used := m.totalMemory - m.availableMemory
  Fields.ofNumbers [("total_bytes", m.totalMemory), ("available_bytes", m.availableMemory),
    ("used_bytes", if used > 0.0 then used else 0.0)]

def advance (t : Ticks) (elapsed percent : Float) : Ticks :=
  ⟨t.busy + elapsed * clamp 0.0 100.0 percent / 100.0, t.total + elapsed⟩

def advanceProcessors (history : History) (m : Measurement) : List (String × Ticks) :=
  m.processors.map fun p =>
    (p.name, advance ((history.processors.lookup p.name).getD {}) m.elapsed p.percent)

def sortByPid (l : List ProcessUse) : List ProcessUse := l.mergeSort fun a b => a.pid ≤ b.pid

/-- The ticks of each process after a look; processes that ended are forgotten. -/
def advanceProcesses (history : History) (m : Measurement) : List (ProcessUse × Float) :=
  (sortByPid m.processes).map fun p =>
    let share := if p.percent > 0.0 then p.percent else 0.0
    (p, (history.processes.lookup p.pid).getD 0.0 + m.elapsed * share / 100.0 * ticksPerSecond)

/-- The sensors with a temperature; one whose label is taken gets its position as well. -/
def sensorSnapshots (taken : List String) (position : Nat) : List SensorReading → List Snapshot
  | [] => []
  | s :: rest =>
    match s.celsius.filter Float.isFinite with
    | none => sensorSnapshots taken (position + 1) rest
    | some c =>
      let name :=
        if taken.contains s.label then s.label ++ " " ++ toString position else s.label
      ⟨name, Fields.ofNumbers [("temp_millicelsius", c * 1000.0)]⟩ ::
        sensorSnapshots (taken ++ [name]) (position + 1) rest

/-- All snapshots of a family at a look, and what is remembered afterwards. -/
def look (history : History) (m : Measurement) (family : Family) :
    Except SourceError (List Snapshot) × History :=
  match family with
  | .memory => (.ok [⟨"", memoryFields m⟩], history)
  | .cpu =>
    let processors := advanceProcessors history m
    (.ok (processors.map fun p => ⟨p.1, Fields.ofNumbers
      [("busy_ticks", p.2.busy), ("total_ticks", p.2.total)]⟩), { history with processors })
  | .process =>
    let processes := advanceProcesses history m
    (.ok (processes.map fun p => ⟨p.1.name, Fields.ofNumbers
      [(pidField, Float.ofNat p.1.pid), ("cpu_ticks", p.2), ("rss_bytes", p.1.residentBytes)]⟩),
      { history with processes := processes.map fun p => (p.1.pid, p.2) })
  | .network =>
    let sorted := m.interfaces.mergeSort fun a b => a.1 ≤ b.1
    (.ok (sorted.map fun i => ⟨i.1, i.2⟩), history)
  | .thermal => (.ok (sensorSnapshots [] 0 m.sensors), history)
  | .disk | .tcp => (.error (notOffered family), history)

def read (history : History) (m : Measurement) (r : Read) :
    Except SourceError (List Snapshot) × History :=
  let (answer, history) := look history m r.family
  (answer.map fun l => l.filter fun s => r.selector.admits s.instanceName, history)

/-- The answers to some reads, each at its own measurement. -/
def readAll (history : History) :
    List (Measurement × Read) → List (Except SourceError (List Snapshot))
  | [] => []
  | (m, r) :: rest =>
    let (answer, history) := read history m r
    answer :: readAll history rest

end HostTelemetry.Portable
