import HostTelemetry.Log
import HostTelemetry.Store.Backend
import HostTelemetry.Text.Quoted

/-!
# The row store

Collectors add rows while a round runs, the flush reads them, and they are cleared before the next
round. A clear that fails is owed from then on; `beginRound` pays it before anything is written. An
insertion that fails drops its row and is no more than logged, so one bad write never ends a round.
-/

namespace HostTelemetry

/-- How many owed clears are tried before a round is refused. -/
def maxClearAttempts : Nat := 3

structure Store (β : Type) where
  backend : β
  clearOwed : Bool := false
  failedClears : Nat := 0

/-- The answer of a store, what it said, and the store afterwards. -/
structure StoreReply (β α : Type) where
  answer : α
  store : Store β
  events : List Event := []

inductive RecordAnswer where
  | stored
  | dropped
  | brokeOff (message : String)
deriving DecidableEq, Repr

namespace Store

variable {β : Type} [Backend β]

/-- A store that shows nothing of its rows. -/
def describe (_ : Store β) : String := "MetricStore"

/-- Adds a row; rows of one series are all kept. -/
def record (s : Store β) (row : Row) : StoreReply β RecordAnswer :=
  match Backend.insert s.backend row with
  | (.stored, b) => ⟨.stored, { s with backend := b }, []⟩
  | (.brokeOff m, b) => ⟨.brokeOff m, { s with backend := b }, []⟩
  | (.refused e, b) =>
    let message := "Dropping metric " ++ Text.quoted row.metric ++ " for instance " ++
      Text.quoted row.instanceName ++ ": " ++ e.message
    ⟨.dropped, { s with backend := b }, [⟨.warn, .store, message⟩]⟩

/-- The instances in the order of their first rows. -/
def instances (s : Store β) : StoreReply β (Except StoreError (List String)) :=
  match Backend.selectInstances s.backend with
  | (r, b) => ⟨r, { s with backend := b }, []⟩

/-- All rows in the order of insertion. -/
def rows (s : Store β) : StoreReply β (Except StoreError (List Row)) :=
  match Backend.selectRows s.backend with
  | (r, b) => ⟨r, { s with backend := b }, []⟩

/-- The rows of one instance in the order of insertion. -/
def rowsOf (s : Store β) (instanceName : String) : StoreReply β (Except StoreError (List Row)) :=
  match Backend.selectRows s.backend with
  | (r, b) =>
    ⟨r.map (·.filter (·.instanceName == instanceName)), { s with backend := b }, []⟩

/-- Removes every row. On failure the clear is owed. -/
def clear (s : Store β) : StoreReply β (Except StoreError Unit) :=
  match Backend.reset s.backend with
  | (.ok _, b) => ⟨.ok (), ⟨b, false, 0⟩, []⟩
  | (.error e, b) =>
    let failures := s.failedClears + 1
    let message := "Failed to clear metric store (" ++ toString failures ++
      " consecutive failures): " ++ e.message
    ⟨.error e, ⟨b, true, failures⟩, [⟨.error, .store, message⟩]⟩

/-- Tries a clear up to a number of times, until one succeeds. -/
def clearWithin (s : Store β) : Nat → StoreReply β (Except StoreError Unit)
  | 0 => ⟨.error (.clearFailed s.failedClears), s, []⟩
  | attempts + 1 =>
    let first := s.clear
    match first.answer with
    | .ok _ => first
    | .error _ =>
      let rest := first.store.clearWithin attempts
      { rest with events := first.events ++ rest.events }

/-- Pays an owed clear before a round. -/
def beginRound (s : Store β) : StoreReply β (Except StoreError Unit) :=
  if s.clearOwed then
    let r := s.clearWithin maxClearAttempts
    { r with events :=
        ⟨.debug, .store, "Retrying clear left over from the previous round"⟩ :: r.events }
  else ⟨.ok (), s, []⟩

end Store

end HostTelemetry
