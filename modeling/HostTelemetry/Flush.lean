import HostTelemetry.Chunk
import HostTelemetry.Delivery.Post

/-!
# Flushing the store

A flush reads the store instance by instance, groups the rows into chunks and delivers each chunk
as soon as it is full, the rest at the end. It stops at the first chunk that is too large or cannot
be delivered; what was delivered stays delivered, and the store is not changed.
-/

namespace HostTelemetry

open Wire (Point)

structure FlushSettings where
  url : String
  user : String
  license : String
  project : String
  system : Option String := none
  /-- The name under which the system-wide instance is published. -/
  instanceName : String
  component : Option String := none
  samplingInterval : Option Duration := none
  proxy : Option String := none
  timeout : Duration
  retry : Retry
  chunkThreshold : Nat
  maxPacketSize : Nat

structure FlushReport where
  chunks : Nat := 0
  points : Nat := 0
  bytes : Nat := 0
deriving DecidableEq, Repr

structure Flusher where
  settings : FlushSettings
  link : Link

def FlushSettings.open? (s : FlushSettings) : Except ShippingError Flusher :=
  (Link.open? s.url s.proxy s.retry).map (Flusher.mk s)

namespace Flusher

variable {β : Type}

/-- The name under which an instance is published. -/
def publishedName (f : Flusher) (instanceName : String) : String :=
  if instanceName.isEmpty then f.settings.instanceName else instanceName

def content (f : Flusher) (c : Chunk) : Wire.Body where
  license := f.settings.license
  user := f.settings.user
  project := f.settings.project
  dataUser := f.settings.user
  instances := c.instances
  system := f.settings.system
  interval := f.settings.samplingInterval.map fun d => Decimal.natText d.seconds

def body (f : Flusher) (c : Chunk) : String := (f.content c).json.toText

/-- The body of a chunk, unless it is too large for the receiver. -/
def body? (f : Flusher) (c : Chunk) : Except ShippingError String :=
  let body := f.body c
  if body.utf8ByteSize > f.settings.maxPacketSize then
    .error (.payloadTooLarge body.utf8ByteSize f.settings.maxPacketSize)
  else .ok body

def bodyEvents (f : Flusher) (c : Chunk) : List Event :=
  match f.body? c with
  | .error (.payloadTooLarge size max) =>
    [⟨.error, .flush, "The packet size is too large: " ++ toString size ++ " > " ++
      toString max ++ " bytes"⟩]
  | _ => []

/-- Delivers a chunk and adds it to the report. -/
def sendChunk (f : Flusher) (c : Chunk) (report : FlushReport) :
    Act β (Except ShippingError FlushReport) := do
  Act.say (f.bodyEvents c)
  match f.body? c with
  | .error e => return .error e
  | .ok body =>
    Act.log .debug .flush
      ("Prepare to send out " ++ toString body.utf8ByteSize ++ " bytes (" ++
        toString c.pointCount ++ " points) to " ++ f.link.endpoint)
    match ← f.link.post body with
    | .error e =>
      Act.log .error .flush
        ("Failed to deliver chunk " ++ toString (report.chunks + 1) ++ ": " ++ e.message)
      return .error e
    | .ok _ =>
      return .ok ⟨report.chunks + 1, report.points + c.pointCount,
        report.bytes + body.utf8ByteSize⟩

/-- Adds rows of one instance, delivering the chunks that they fill. -/
def addRows (f : Flusher) (name : String) :
    List Row → Chunker → FlushReport → Act β (Except ShippingError (Chunker × FlushReport))
  | [], chunker, report => return .ok (chunker, report)
  | row :: rest, chunker, report => do
    match chunker.push name ⟨row.metric, row.value⟩ with
    | (none, chunker) => f.addRows name rest chunker report
    | (some chunk, chunker) =>
      match ← f.sendChunk chunk report with
      | .error e => return .error e
      | .ok report => f.addRows name rest chunker report

variable [Backend β]

/-- Adds the rows of some instances, delivering the chunks that they fill. -/
def addInstances (f : Flusher) :
    List String → Chunker → FlushReport → Act β (Except ShippingError (Chunker × FlushReport))
  | [], chunker, report => return .ok (chunker, report)
  | name :: rest, chunker, report => do
    match ← Act.useStore fun s => s.rowsOf name with
    | .error e => return .error (.store e)
    | .ok rows =>
      match ← f.addRows (f.publishedName name) rows chunker report with
      | .error e => return .error e
      | .ok (chunker, report) => f.addInstances rest chunker report

def sendRest (f : Flusher) (chunker : Chunker) (report : FlushReport) :
    Act β (Except ShippingError FlushReport) :=
  match chunker.finish with
  | some chunk => f.sendChunk chunk report
  | none => return .ok report

def reportEvent (r : FlushReport) : Event :=
  if r.chunks = 0 then ⟨.debug, .flush, "Nothing to flush"⟩
  else
    ⟨.info, .flush, "Flushed " ++ toString r.points ++ " metric points in " ++
      toString r.chunks ++ " chunks (" ++ toString r.bytes ++ " bytes)"⟩

def chunker (f : Flusher) (timestamp : Int) : Chunker where
  threshold := f.settings.chunkThreshold
  timestamp := timestamp
  component := f.settings.component

/-- Delivers every row of the store under one timestamp. -/
def flush (f : Flusher) (timestamp : Int) : Act β (Except ShippingError FlushReport) := do
  match ← Act.useStore Store.instances with
  | .error e => return .error (.store e)
  | .ok names =>
    match ← f.addInstances names (f.chunker timestamp) {} with
    | .error e => return .error e
    | .ok (chunker, report) =>
      match ← f.sendRest chunker report with
      | .error e => return .error e
      | .ok report =>
        Act.say [reportEvent report]
        return .ok report

end Flusher

end HostTelemetry
