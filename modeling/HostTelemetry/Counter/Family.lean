/-!
# Families of counters

The groups of counters that are read together, and the choice between all instances of a family
and the system-wide one.
-/

namespace HostTelemetry

inductive Family where
  | memory
  | cpu
  | disk
  | network
  | process
  | thermal
  | tcp
deriving DecidableEq, Repr

def Family.name : Family → String
  | .memory => "memory"
  | .cpu => "cpu"
  | .disk => "disk"
  | .network => "network"
  | .process => "process"
  | .thermal => "thermal"
  | .tcp => "tcp"

inductive Selector where
  | all
  | systemWide
deriving DecidableEq, Repr

/-- Whether an instance is among those to read; the system-wide one has the empty name. -/
def Selector.admits (s : Selector) (instanceName : String) : Bool :=
  match s with
  | .all => true
  | .systemWide => instanceName.isEmpty

structure Read where
  family : Family
  selector : Selector
deriving DecidableEq, Repr

end HostTelemetry
