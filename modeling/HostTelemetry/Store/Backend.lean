import HostTelemetry.Row

/-!
# Backends of the row store

A backend keeps rows: it takes one row at a time, gives back all rows in the order of insertion and
their instances in the order of first insertion, and can drop everything. Each of its operations
may fail. `MemoryBackend` never does; `FaultyBackend` fails on demand.
-/

namespace HostTelemetry

inductive StoreError where
  | backend (reason : String)
  | clearFailed (attempts : Nat)
deriving DecidableEq, Repr

def StoreError.message : StoreError → String
  | .backend reason => "metric backend failure: " ++ reason
  | .clearFailed attempts =>
    "metric store could not be cleared after " ++ toString attempts ++ " attempts"

/-- What becomes of an insertion: the backend may also break off in the middle. -/
inductive InsertAnswer where
  | stored
  | refused (error : StoreError)
  | brokeOff (message : String)
deriving DecidableEq, Repr

class Backend (β : Type) where
  insert : β → Row → InsertAnswer × β
  selectRows : β → Except StoreError (List Row) × β
  selectInstances : β → Except StoreError (List String) × β
  reset : β → Except StoreError Unit × β

/-- The instances of some rows, each once, in the order of first occurrence. -/
def instancesOf (rows : List Row) : List String := (rows.map (·.instanceName)).eraseDups

/-! ### In memory -/

structure MemoryBackend where
  rows : List Row := []

instance : Backend MemoryBackend where
  insert b row := (.stored, ⟨b.rows ++ [row]⟩)
  selectRows b := (.ok b.rows, b)
  selectInstances b := (.ok (instancesOf b.rows), b)
  reset _ := (.ok (), ⟨[]⟩)

/-! ### With faults -/

/-- Rows in memory, with the faults that are due. A row of the metric `breaking` breaks off its
insertion. -/
structure FaultyBackend where
  rows : List Row := []
  refusesInserts : Bool := false
  refusesSelects : Bool := false
  refusedResets : Nat := 0
  breaking : String := "boom"

instance : Backend FaultyBackend where
  insert b row :=
    if row.metric == b.breaking then (.brokeOff "backend exploded", b)
    else if b.refusesInserts then (.refused (.backend "insert refused"), b)
    else (.stored, { b with rows := b.rows ++ [row] })
  selectRows b := (if b.refusesSelects then .error (.backend "select refused") else .ok b.rows, b)
  selectInstances b :=
    (if b.refusesSelects then .error (.backend "select refused") else .ok (instancesOf b.rows), b)
  reset b :=
    match b.refusedResets with
    | 0 => (.ok (), { b with rows := [] })
    | n + 1 => (.error (.backend "drop refused"), { b with refusedResets := n })

end HostTelemetry
