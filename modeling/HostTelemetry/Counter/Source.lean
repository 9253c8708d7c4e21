import HostTelemetry.Counter.Family
import HostTelemetry.Counter.Snapshot
import HostTelemetry.Files
import HostTelemetry.Log

/-!
# Sources of counters

A source answers reads with snapshots or with an error. What it answers may depend on every read
before, so a source that changes or fails from call to call is one too.
-/

namespace HostTelemetry

inductive SourceError where
  | unavailable (reason : String)
  | io (path : String) (cause : FileError)
  | parse (path reason : String)
deriving DecidableEq, Repr

def SourceError.message : SourceError → String
  | .unavailable reason => "counter source unavailable: " ++ reason
  | .io path cause => "failed to read " ++ path ++ ": " ++ cause.message
  | .parse path reason => "failed to parse " ++ path ++ ": " ++ reason

/-- The answer to a read, and what the source had to say meanwhile. -/
structure Reading where
  result : Except SourceError (List Snapshot)
  notices : List Event := []

/-- Something to read counters from. `read earlier` is its answer after the reads `earlier`, the
first one at the head; `supports` tells which families the platform can provide at all. -/
structure CounterSource where
  supports : Family → Bool := fun _ => true
  read : List Read → Read → Reading

/-- The source that gives its prepared answers for each family in turn, and the last one again and
again. A family without answers is not available. -/
def CounterSource.scripted (answers : Family → List (Except SourceError (List Snapshot)))
    (supports : Family → Bool) : CounterSource where
  supports := supports
  read earlier r :=
    let done := (earlier.filter fun e => e.family = r.family).length
    let prepared := answers r.family
    match (prepared[done]?).or prepared.getLast? with
    | some answer => ⟨answer, []⟩
    | none => ⟨.error (.unavailable "not scripted"), []⟩

end HostTelemetry
