import HostTelemetry.Wire.Payload

/-!
# Chunks

The points of a round are sent in chunks. A chunker adds up the lengths of the points in the open
chunk; the point that takes the sum over the threshold is the last one of its chunk. A point is
never split, and an instance may go on in the next chunk.
-/

namespace HostTelemetry

open Wire (Point InstanceMap)

/-- The length of a point on the wire, in bytes. -/
def pointBytes (p : Point) : Nat := Wire.byteLength p.json.render

structure Chunk where
  instances : InstanceMap
  contentBytes : Nat

def Chunk.pointCount (c : Chunk) : Nat := c.instances.pointCount

/-- An open chunk, with the settings that are the same for all its points. -/
structure Chunker where
  threshold : Nat
  timestamp : Int
  component : Option String
  current : InstanceMap := []
  currentBytes : Nat := 0

namespace Chunker

def emptied (c : Chunker) : Chunker := { c with current := [], currentBytes := 0 }

/-- Adds a point. The chunk is finished if the point takes it over the threshold. -/
def push (c : Chunker) (instanceName : String) (p : Point) : Option Chunk × Chunker :=
  let instances := InstanceMap.push instanceName c.component c.timestamp p c.current
  let bytes := c.currentBytes + pointBytes p
  if bytes > c.threshold then (some ⟨instances, bytes⟩, c.emptied)
  else (none, { c with current := instances, currentBytes := bytes })

def finish (c : Chunker) : Option Chunk :=
  if c.current.isEmpty then none else some ⟨c.current, c.currentBytes⟩

end Chunker

end HostTelemetry
