import HostTelemetry.Counter.Family
import HostTelemetry.Text.Cut
import HostTelemetry.Text.LowerCase

/-!
# The catalog of families

For every family: whether it is read once or twice, which metrics are derived from its fields and
how, which instances are left out, and which field tells the members of one instance apart.
-/

namespace HostTelemetry

/-- Read once, or twice with the sampling window in between. -/
inductive Cadence where
  | instantaneous
  | cumulative
deriving DecidableEq, Repr

/-- How a metric is computed from fields. -/
inductive Derivation where
  /-- The value of the field; in a family read twice, from the second read. -/
  | gauge (field : String)
  /-- The increase of the field per second of the window. -/
  | rate (field : String)
  /-- The increase of one field divided by that of another, or 0 if the latter did not move. -/
  | deltaRatio (numerator denominator : String)
  /-- One field divided by another in a single read, or 0 if the latter is not positive. -/
  | gaugeRatio (numerator denominator : String)
deriving DecidableEq, Repr

structure Metric where
  name : String
  derivation : Derivation
  factor : Float
deriving Repr

structure FamilySpec where
  family : Family
  cadence : Cadence
  /-- Read the system-wide instance only. -/
  systemWideOnly : Bool := false
  metrics : List Metric
  /-- True of the instances to leave out. -/
  filter : Option (String → Bool) := none
  /-- The field that tells apart several snapshots published under one instance. Members are
  matched across reads by instance and member, and their metrics are summed. -/
  memberField : Option String := none

def FamilySpec.excludes (s : FamilySpec) (instanceName : String) : Bool :=
  match s.filter with
  | some f => f instanceName
  | none => false

/-! ### Interfaces that are no physical link -/

def excludedFragments : List String := ["loopback", "isatap", "teredo", "pseudo-interface"]

/-- Whether a network interface is a loopback, a tunnel or a pseudo device, regardless of case. -/
def isExcludedInterface (name : String) : Bool :=
  let s := Text.lower name.toList
  s == "lo".toList || excludedFragments.any fun f => Text.occursIn f.toList s

/-! ### The families -/

def bytesToMegabytes : Float := 1.0 / 1048576.0

def fractionToPercent : Float := 100.0

def pidField : String := "pid"

/-- Clock ticks per second of the processor times of a process. -/
def ticksPerSecond : Float := 100.0

def memorySpec : FamilySpec where
  family := .memory
  cadence := .instantaneous
  systemWideOnly := true
  metrics := [
    ⟨"Memory Available MB", .gauge "available_bytes", bytesToMegabytes⟩,
    ⟨"Memory Used MB", .gauge "used_bytes", bytesToMegabytes⟩,
    ⟨"Memory Usage %", .gaugeRatio "used_bytes" "total_bytes", fractionToPercent⟩]

def cpuSpec : FamilySpec where
  family := .cpu
  cadence := .cumulative
  metrics := [⟨"CPU Usage %", .deltaRatio "busy_ticks" "total_ticks", fractionToPercent⟩]

def diskSpec : FamilySpec where
  family := .disk
  cadence := .cumulative
  metrics := [
    ⟨"Read Bytes/s", .rate "read_bytes", 1.0⟩,
    ⟨"Write Bytes/s", .rate "write_bytes", 1.0⟩,
    ⟨"Read Ops/s", .rate "reads", 1.0⟩,
    ⟨"Write Ops/s", .rate "writes", 1.0⟩,
    ⟨"Queue Length", .gauge "in_progress", 1.0⟩,
    ⟨"Read Latency ms", .deltaRatio "read_time_ms" "reads", 1.0⟩,
    ⟨"Write Latency ms", .deltaRatio "write_time_ms" "writes", 1.0⟩]

def networkSpec : FamilySpec where
  family := .network
  cadence := .cumulative
  metrics := [
    ⟨"Network Inbound Bytes/s", .rate "rx_bytes", 1.0⟩,
    ⟨"Network Outbound Bytes/s", .rate "tx_bytes", 1.0⟩,
    ⟨"Network Inbound MB/s", .rate "rx_bytes", bytesToMegabytes⟩,
    ⟨"Network Outbound MB/s", .rate "tx_bytes", bytesToMegabytes⟩,
    ⟨"Network Inbound Packets/s", .rate "rx_packets", 1.0⟩,
    ⟨"Network Outbound Packets/s", .rate "tx_packets", 1.0⟩,
    ⟨"Network Inbound Errors/s", .rate "rx_errors", 1.0⟩,
    ⟨"Network Outbound Errors/s", .rate "tx_errors", 1.0⟩,
    ⟨"Network Inbound Drops/s", .rate "rx_drops", 1.0⟩,
    ⟨"Network Outbound Drops/s", .rate "tx_drops", 1.0⟩]
  filter := some isExcludedInterface

/-- Ticks per second over `ticksPerSecond` is the share of one core. -/
def processSpec : FamilySpec where
  family := .process
  cadence := .cumulative
  metrics := [
    ⟨"Process CPU Usage %", .rate "cpu_ticks", fractionToPercent / ticksPerSecond⟩,
    ⟨"Process Memory Used MB", .gauge "rss_bytes", bytesToMegabytes⟩]
  memberField := some pidField

def thermalSpec : FamilySpec where
  family := .thermal
  cadence := .instantaneous
  metrics := [⟨"Thermal Temperature", .gauge "temp_millicelsius", 0.001⟩]

def tcpSpec : FamilySpec where
  family := .tcp
  cadence := .cumulative
  systemWideOnly := true
  metrics := [
    ⟨"TCP Connections Established", .gauge "CurrEstab", 1.0⟩,
    ⟨"TCP Active Opens/s", .rate "ActiveOpens", 1.0⟩,
    ⟨"TCP Passive Opens/s", .rate "PassiveOpens", 1.0⟩,
    ⟨"TCP Connection Failures/s", .rate "AttemptFails", 1.0⟩,
    ⟨"TCP Connections Reset/s", .rate "EstabResets", 1.0⟩,
    ⟨"TCP Segments Received/s", .rate "InSegs", 1.0⟩,
    ⟨"TCP Segments Sent/s", .rate "OutSegs", 1.0⟩,
    ⟨"TCP Segments Retransmitted/s", .rate "RetransSegs", 1.0⟩]

def catalog : List FamilySpec :=
  [memorySpec, cpuSpec, diskSpec, networkSpec, processSpec, thermalSpec, tcpSpec]

def Family.spec : Family → FamilySpec
  | .memory => memorySpec
  | .cpu => cpuSpec
  | .disk => diskSpec
  | .network => networkSpec
  | .process => processSpec
  | .thermal => thermalSpec
  | .tcp => tcpSpec

end HostTelemetry
