import HostTelemetry.Proofs.ChunkSizes
import HostTelemetry.Proofs.FlushCourse

/-!
# Bodies without their points

A chunker counts the bytes of points one by one, before there is a body. The body that is written
later is as long as the same body with empty lists of points, the bytes counted, and a comma for
every point but the first of each instance. So a chunk whose points alone exceed the ceiling is never
sent.
-/

namespace HostTelemetry

open Wire (Entry Body InstanceMap entryNames)

namespace Wire

/-! ### Instances without points -/

/-- The same instances under the same timestamps, with empty lists of points. -/
def InstanceMap.emptied (m : InstanceMap) : InstanceMap :=
  m.map fun d => { d with timeline := d.timeline.map fun e => (e.1, { e.2 with points := [] }) }

namespace InstanceMap

variable (component : Option String) (timestamp : Int)

theorem emptied_ofEntries (es : List Entry) : (ofEntries component timestamp es).emptied =
    (entryNames es).map fun n => instanceOf component timestamp n [] := by
  rw [ofEntries_eq, emptied, List.map_map]
  rfl

theorem length_ofEntries (es : List Entry) :
    (ofEntries component timestamp es).length = (entryNames es).length := by
  rw [ofEntries_eq, List.length_map]

theorem bytes_emptied (es : List Entry) : (ofEntries component timestamp es).emptied.json.bytes =
    2 + ((entryNames es).map (wrapping component timestamp)).sum + ((entryNames es).length - 1) := by
  have hmember : (fun n => Json.memberBytes ((instanceOf component timestamp n []).name,
      (instanceOf component timestamp n []).json)) = wrapping component timestamp :=
    funext fun n => by rw [wrapping, instanceOf]
  rw [emptied_ofEntries, json, Json.bytes_object, List.map_map, List.map_map, Json.joined,
    List.length_map, Nat.add_assoc]
  simp only [Function.comp_def, hmember]

/-- Points cost their own bytes, and a comma each but for the first of an instance. -/
theorem bytes_ofEntries_emptied {es : List Entry} (h : es ≠ []) :
    (ofEntries component timestamp es).json.bytes + (entryNames es).length =
      (ofEntries component timestamp es).emptied.json.bytes +
        (es.map fun e => e.2.json.bytes).sum + es.length := by
  have hpoints := List.length_pos_iff.2 h
  have hnames : 0 < (entryNames es).length := by
    obtain ⟨e, he⟩ := List.exists_mem_of_ne_nil es h
    exact List.length_pos_of_mem (mem_entryNames he)
  rw [bytes_ofEntries component timestamp h, bytes_emptied]
  omega

end InstanceMap

theorem two_le_bytes (b : Body) : 2 ≤ b.json.bytes := by
  rw [Body.json, Json.bytes_object]
  exact Nat.le_add_right _ _

end Wire

/-! ### Chunks without points -/

namespace Chunk

def emptied (c : Chunk) : Chunk := { c with instances := c.instances.emptied }

/-- A body around the instances of a chunk is as long as the same body without points, the bytes
that the chunk counts and the commas between its points. -/
def CountsIn (c : Chunk) (b : Body) : Prop :=
  { b with instances := c.instances }.text.utf8ByteSize + c.instances.length =
    { b with instances := c.instances.emptied }.text.utf8ByteSize + c.contentBytes + c.pointCount

end Chunk

namespace Chunker

variable (c : Chunker) {es : List Entry}

theorem countsIn_chunk (h : es ≠ []) (b : Body) : (c.chunk es).CountsIn b := by
  have hfull := Wire.bytes_body { b with instances := (c.chunk es).instances }
  have hempty := Wire.bytes_body { b with instances := (c.chunk es).instances.emptied }
  have hpoints := InstanceMap.bytes_ofEntries_emptied c.component c.timestamp h
  have hnames : (c.chunk es).instances.length = (entryNames es).length :=
    InstanceMap.length_ofEntries c.component c.timestamp es
  have hcontent : (c.chunk es).contentBytes = (es.map fun e => e.2.json.bytes).sum := bytesOf_eq es
  have htext : ∀ b : Body, b.text.utf8ByteSize = b.json.bytes := fun _ => rfl
  rw [Chunk.CountsIn, htext, htext, hnames, hcontent, pointCount_chunk]
  dsimp only [chunk] at hfull hempty ⊢
  omega

theorem length_instances_chunk_le (es : List Entry) :
    (c.chunk es).instances.length ≤ (c.chunk es).pointCount := by
  rw [pointCount_chunk, chunk, InstanceMap.length_ofEntries]
  exact Wire.length_entryNames_le es

end Chunker

namespace Flusher

variable (f : Flusher) {chunk : Chunk}

theorem contentBytes_lt (h : chunk.CountsIn (f.content chunk))
    (hle : chunk.instances.length ≤ chunk.pointCount) :
    chunk.contentBytes < (f.body chunk).utf8ByteSize := by
  have hempty : 2 ≤ (f.content chunk.emptied).json.bytes := Wire.two_le_bytes _
  have hcount : (f.body chunk).utf8ByteSize + chunk.instances.length =
      (f.content chunk.emptied).json.bytes + chunk.contentBytes + chunk.pointCount := h
  omega

theorem sendChunk_tooLarge {β : Type}
    (h : f.settings.maxPacketSize < (f.body chunk).utf8ByteSize) (report : FlushReport)
    (w : Surroundings) (s : Scene β) :
    (f.sendChunk chunk report w s).result = .ok (.error
        (.payloadTooLarge (f.body chunk).utf8ByteSize f.settings.maxPacketSize)) ∧
      exchanges (f.sendChunk chunk report w s).effects = [] := by
  have hbody : f.body? chunk = .error
      (.payloadTooLarge (f.body chunk).utf8ByteSize f.settings.maxPacketSize) := by
    simp only [body?, gt_iff_lt, if_pos h]
  have hmeets : (f.sendChunk chunk report).Meets w s fun r es _ =>
      r = .ok (.error (.payloadTooLarge (f.body chunk).utf8ByteSize f.settings.maxPacketSize)) ∧
        exchanges es = [] := by
    rw [sendChunk, Act.meets_say_bind, hbody]
    exact ⟨rfl, rfl⟩
  rwa [Act.Meets, exchanges_deeds] at hmeets

end Flusher

/-! ### The bytes that a chunk counts -/

/-- What a chunk counts is its share of any body around it, whatever the settings, and a chunk that
counts more than the ceiling allows is refused. -/
theorem Flusher.body_counts_points (f : Flusher) (threshold : Nat) (timestamp : Int)
    (component : Option String) (es : List Entry) (chunk : Chunk)
    (h : chunk ∈ ({ threshold, timestamp, component } : Chunker).chunks es) :
    (∀ b, chunk.CountsIn b) ∧
      (f.body chunk).utf8ByteSize + chunk.instances.length =
        (f.body chunk.emptied).utf8ByteSize + chunk.contentBytes + chunk.pointCount ∧
      chunk.instances.length ≤ chunk.pointCount ∧
      chunk.contentBytes < (f.body chunk).utf8ByteSize ∧
      (f.settings.maxPacketSize < chunk.contentBytes →
        ∀ {β : Type} (report : FlushReport) (w : Surroundings) (s : Scene β),
          (f.sendChunk chunk report w s).result = .ok (.error
              (.payloadTooLarge (f.body chunk).utf8ByteSize f.settings.maxPacketSize)) ∧
            exchanges (f.sendChunk chunk report w s).effects = []) := by
  -- A chunk carries some of the entries, and at least one.
  obtain ⟨g, hne, hchunk⟩ :=
    Chunker.exists_of_mem_chunks { threshold, timestamp, component } h
  have hcounts : ∀ b, chunk.CountsIn b := fun b => hchunk ▸ Chunker.countsIn_chunk _ hne b
  have hle : chunk.instances.length ≤ chunk.pointCount :=
    hchunk ▸ Chunker.length_instances_chunk_le _ g
  have hlt := f.contentBytes_lt (hcounts (f.content chunk)) hle
  refine ⟨hcounts, hcounts (f.content chunk), hle, hlt, ?_⟩
  intro hmax β report w s
  exact f.sendChunk_tooLarge (Nat.lt_trans hmax hlt) report w s

def crampedSettings : FlushSettings where
  url := "https://receiver"
  user := "user"
  license := "license"
  project := "project"
  instanceName := "host"
  samplingInterval := some (.ofSeconds 300)
  timeout := .zero
  retry := .immediate 1
  chunkThreshold := 40
  maxPacketSize := 50

/-- A flusher that takes no body of more than fifty bytes. -/
def cramped : Flusher := ⟨crampedSettings, ⟨"https://receiver/receive", .immediate 1⟩⟩

def quotedPushes : List Entry := [("a", ⟨"m", 1⟩), ("\"", ⟨"m", 2⟩), ("a", ⟨"\n", 3⟩)]

theorem chunks_quotedPushes_ne_nil : (cramped.chunker 5).chunks quotedPushes ≠ [] := by
  decide +kernel

def quotedChunk : Chunk := ((cramped.chunker 5).chunks quotedPushes).head chunks_quotedPushes_ne_nil

theorem body_counts_points_cramped :
    quotedChunk ∈ (cramped.chunker 5).chunks quotedPushes ∧ quotedChunk.contentBytes = 52 ∧
      (cramped.body quotedChunk).utf8ByteSize + 2 =
        (cramped.body quotedChunk.emptied).utf8ByteSize + 52 + 3 ∧
      ∀ (report : FlushReport) (w : Surroundings) (s : Scene MemoryBackend),
        exchanges (cramped.sendChunk quotedChunk report w s).effects = [] := by
  have hmem : quotedChunk ∈ (cramped.chunker 5).chunks quotedPushes := List.head_mem _
  have hcontent : quotedChunk.contentBytes = 52 := by decide +kernel
  have hlength : quotedChunk.instances.length = 2 := by decide +kernel
  have hpoints : quotedChunk.pointCount = 3 := by decide +kernel
  obtain ⟨-, hbody, -, -, hrefused⟩ := cramped.body_counts_points 40 5 none quotedPushes _ hmem
  rw [hcontent, hlength, hpoints] at hbody
  refine ⟨hmem, hcontent, hbody, fun report w s => ?_⟩
  exact (hrefused (by rw [hcontent]; decide) report w s).2

end HostTelemetry
