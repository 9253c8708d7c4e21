import HostTelemetry.Agent
import HostTelemetry.Kernel.Source
import Std.Time.DateTime.Timestamp

/-!
# The command line

Runs the agent over the live system. A computation of the agent is run up to its next wait; what it
did so far is shown, the wait is waited for, and the computation is run again with what the files
say afterwards. Nothing here can open a connection, so every request counts as failed.
-/

namespace HostTelemetry.CommandLine

def environment : IO Settings.Variables := do
  let values ← Settings.variableNames.mapM fun name => do
    let value ← IO.getEnv name
    return (name, value)
  return fun name => (values.lookup name).join

/-! ### Files of the live system -/

/-- A file with its content, if it can be read. -/
def file? (p : Path) : IO (Option (Path × ByteArray)) := do
  try
    let bytes ← IO.FS.readBinFile p.text
    return some (p, bytes)
  catch _ => return none

/-- The names in a directory, if it can be read. -/
def names? (p : Path) : IO (Option (List String)) := do
  try
    let entries ← (System.mkFilePath [p.text]).readDir
    return some (entries.toList.map fun e => e.fileName)
  catch _ => return none

def kernelTree (roots : Kernel.Roots) : IO FileTree := do
  let thermal := roots.sys ++ ["class", "thermal"]
  let processes := (← names? roots.proc).map Kernel.processIds
  let zones := (← names? thermal).map fun l => l.filterMap Kernel.zoneNumber?
  let paths :=
    [["meminfo"], ["stat"], ["diskstats"], ["net", "dev"], ["net", "snmp"]].map (roots.proc ++ ·) ++
    (processes.getD []).flatMap (fun pid =>
      ["stat", "status"].map fun name => roots.proc ++ [Decimal.natText pid, name]) ++
    (zones.getD []).flatMap (fun zone => ["temp", "type"].map fun name => thermal ++ [zone.2, name])
  let files ← paths.mapM file?
  let directories :=
    [(processes.isSome, roots.proc), (zones.isSome, thermal)].filterMap fun d =>
      if d.1 then some d.2 else none
  return ⟨files.filterMap id, directories⟩

/-- The name of the host as the kernel knows it. -/
def kernelHost : IO (Option String) := do
  return (← file? ["", "proc", "sys", "kernel", "hostname"]).bind fun f => String.fromUTF8? f.2

/-- The counters of the live system, first as in one tree and then as in another. -/
def liveSource (first second : FileTree) : CounterSource where
  read earlier r :=
    let isFirst := r.family.spec.cadence == .cumulative &&
      Kernel.atFirstMoment first.toFiles .live .live r.family earlier
    Kernel.Roots.live.reading (if isFirst then first else second).toFiles r

/-! ### Doing what a computation does -/

def wait (d : Duration) : IO Unit := do
  for _ in [0:d.seconds] do
    IO.sleep 1000
  IO.sleep (d.nanos / 1000000).toUInt32

def print (filter : LogFilter) (events : List Event) : IO Unit :=
  (Agent.printed filter events).forM IO.println

/-- Prints or waits. Reads and requests are done by the time their effect is known. -/
def perform (filter : LogFilter) : Effect → IO Unit
  | .logged e => print filter [e]
  | .paused d => wait d
  | .read _ | .recorded _ _ | .sent _ _ | .stopRequested => pure ()

def round (filter : LogFilter) (c : Collector) (store : Store MemoryBackend) :
    IO (Store MemoryBackend) := do
  let now ← Std.Time.Timestamp.now
  let start := Time.ofMillis now.toMillisecondsSinceUnixEpoch.val
  print filter [Collector.startEvent]
  let first ← kernelTree .live
  let mut second := first
  let mut waits := 0
  let mut done := 0
  repeat
    let known := waits
    let surroundings : Surroundings := {
      source := liveSource first second
      answer := fun _ => .failed "no connection"
      stops := fun p => known < p.pauses }
    let o := c.round start surroundings ⟨store, {}⟩
    let effects := o.effects.filter fun e => e ≠ .stopRequested
    (effects.drop done).forM (perform filter)
    done := effects.length
    match o.result with
    | .ok result =>
      print filter [Collector.roundEvent result]
      return o.scene.store
    | .error (.brokeOff _) => return o.scene.store
    | .error .stopped =>
      if waits = 0 then second ← kernelTree .live
      waits := waits + 1
  return store

/-- Rounds without end, each one interval after the start of the one before, or later. -/
def rounds (filter : LogFilter) (settings : Settings) (c : Collector) : IO Unit := do
  let mut store : Store MemoryBackend := { backend := {} }
  repeat
    let start ← IO.monoNanosNow
    store ← round filter c store
    let elapsed := (← IO.monoNanosNow) - start
    let millis := (settings.roundInterval.totalNanos - elapsed) / 1000000
    wait (.ofMillis millis)

end HostTelemetry.CommandLine

open HostTelemetry HostTelemetry.CommandLine in
/-- Starts the agent; the exit code is 1 if it cannot start. -/
def main : IO UInt32 := do
  let vars ← environment
  let filter := Agent.logFilter vars
  let source := Kernel.Roots.live.source (FileTree.mk [] []).toFiles
  let (startup, events) := Agent.start vars (← kernelHost) source
  print filter events
  match startup with
  | .refused => return 1
  | .ready settings collector =>
    rounds filter settings collector
    return 0
