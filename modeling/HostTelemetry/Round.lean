import HostTelemetry.Flush
import HostTelemetry.Sampling

/-!
# Rounds

A round pays an owed clear, samples into the store, ships the store under the time of its start and
clears it, whether the shipment succeeded or not. It is skipped if the owed clear fails. Rounds
follow one another until the agent is asked to stop; the round that is then under way is given up
and its rows are discarded.
-/

namespace HostTelemetry

inductive RoundError where
  | skipped (error : StoreError)
  | shipping (error : ShippingError)
deriving DecidableEq, Repr

def RoundError.message : RoundError → String
  | .skipped error =>
    "Round skipped, metric store still holds the previous round: " ++ error.message
  | .shipping error => "Failed to ship metrics: " ++ error.message

/-- What a round did: rows stored, chunks and points delivered. -/
structure RoundReport where
  records : Nat := 0
  chunks : Nat := 0
  points : Nat := 0
deriving DecidableEq, Repr

structure Collector where
  sampling : Sampling
  flusher : Flusher

namespace Collector

variable {β : Type} [Backend β]

/-- Clears the store; a failure is logged behind `complaint`. -/
def clearStore (complaint : String) : Act β Unit := do
  match ← Act.useStore Store.clear with
  | .ok _ => pure ()
  | .error e => Act.log .warn .rounds (complaint ++ e.message)

/-- One round that starts at the given time. -/
def round (c : Collector) (start : Time) : Act β (Except RoundError RoundReport) := do
  match ← Act.useStore Store.beginRound with
  | .error e => return .error (.skipped e)
  | .ok _ =>
    let records ← c.sampling.collect
    let shipped ← c.flusher.flush start.epochMillis
    clearStore "Metric store not cleared after shipment, will retry next round: "
    match shipped with
    | .error e => return .error (.shipping e)
    | .ok report => return .ok ⟨records, report.chunks, report.points⟩

def startEvent : Event := ⟨.info, .rounds, "Start collecting metrics"⟩

def roundEvent : Except RoundError RoundReport → Event
  | .ok r =>
    ⟨.info, .rounds, "End collecting metrics: " ++ toString r.records ++ " records stored, " ++
      toString r.points ++ " points shipped in " ++ toString r.chunks ++ " chunks"⟩
  | .error e => ⟨.error, .rounds, "Collection round failed: " ++ e.message⟩

/-- Drops what an interrupted round left in the store. -/
def discardRound : Act β Unit := do
  Act.log .debug .rounds "Round interrupted, discarding collected metrics"
  clearStore "Metric store not cleared after interrupted round: "

/-- A round that is given up when the agent is asked to stop, also before it does anything; nothing
is given then. -/
def interruptible (c : Collector) (start : Time) :
    Act β (Option (Except RoundError RoundReport)) := do
  match ← Act.unlessStopped (Act.checkpoint >>= fun _ => c.round start) with
  | some result => return some result
  | none =>
    discardRound
    return none

/-- Rounds until the agent is asked to stop, but no more than a number of them. -/
def rounds (c : Collector) : Nat → Act β Unit
  | 0 => return
  | more + 1 => do
    match ← Act.nextRound with
    | none => return
    | some start =>
      Act.say [startEvent]
      match ← c.interruptible start with
      | none => return
      | some result =>
        Act.say [roundEvent result]
        c.rounds more

/-- Rounds until the agent is asked to stop, and a last word. -/
def run (c : Collector) (most : Nat) : Act β Unit := do
  c.rounds most
  Act.log .info .rounds "Stopped collecting metrics"

end Collector

end HostTelemetry
