/-!
# Rows

One published value: of which instance, of which metric, how much. Derivation produces rows, the
store keeps them and a flush turns them into points. The system-wide instance has the empty name.
-/

namespace HostTelemetry

structure Row where
  instanceName : String
  metric : String
  value : Float
deriving DecidableEq, Repr

/-- Whether two rows are of one instance and one metric. -/
def Row.sameSeries (a b : Row) : Bool :=
  a.instanceName == b.instanceName && a.metric == b.metric

end HostTelemetry
