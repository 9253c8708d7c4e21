import HostTelemetry.Counter.Source
import HostTelemetry.Delivery.Status
import HostTelemetry.Duration
import HostTelemetry.Store.Basic

/-!
# What the agent does to the world

A round reads counters, waits, sends requests and writes log lines. `Act` is a computation that
does so: it is given the surroundings, which decide what comes back, and it gives its result, the
list of everything it did, and the scene afterwards. At every wait, at every request and at every
checkpoint the surroundings may ask it to stop; a computation that stops does nothing more.
-/

namespace HostTelemetry

/-- A request to the receiver: a body of structured text, posted to a url. -/
structure Request where
  url : String
  body : String
deriving DecidableEq, Repr

/-- How every request is made, and what its body is. -/
def Request.method : String := "POST"

def Request.contentType : String := "application/json"

structure Response where
  status : Status
  body : String
deriving DecidableEq, Repr

/-- The response to a status and a text; some statuses never carry a body. -/
def Response.received (status : Status) (text : String) : Response :=
  ⟨status, if status.carriesBody then text else ""⟩

inductive Answer where
  | response (r : Response)
  /-- The connection ends without an answer. -/
  | failed (reason : String)
deriving DecidableEq, Repr

/-- Whether the text of an answer is awaited; that of a success is not. -/
def Answer.isRead : Answer → Bool
  | .response r => !r.status.isSuccess
  | .failed _ => false

/-- What comes of a status and a text, if the connection ends behind them: a status that announces a
further answer leaves the request without one. -/
def Answer.received (status : Status) (text unanswered : String) : Answer :=
  if status.isFinal then .response (.received status text) else .failed unanswered

inductive Effect where
  | read (r : Read)
  | recorded (row : Row) (answer : RecordAnswer)
  | paused (d : Duration)
  /-- A request and its answer, or none if the agent was stopped before it came. -/
  | sent (r : Request) (answer : Option Answer)
  | logged (e : Event)
  /-- The agent notices that it is to stop. -/
  | stopRequested
deriving DecidableEq, Repr

structure Progress where
  reads : List Read := []
  sent : Nat := 0
  pauses : Nat := 0
  /-- Rounds taken up and texts of answers awaited. -/
  checkpoints : Nat := 0
  rounds : Nat := 0

/-- What the agent meets: counters, a receiver whose answers are numbered from 0, a clock that
gives the start of each round, and somebody who may ask it to stop. -/
structure Surroundings where
  source : CounterSource
  answer : Nat → Answer := fun _ => .response ⟨⟨200⟩, ""⟩
  clock : Nat → Time := fun _ => ⟨0⟩
  stops : Progress → Bool := fun _ => false

structure Scene (β : Type) where
  store : Store β
  progress : Progress := {}

inductive Exit where
  | stopped
  | brokeOff (message : String)
deriving DecidableEq, Repr

structure Outcome (β α : Type) where
  result : Except Exit α
  effects : List Effect
  scene : Scene β

def Outcome.andThen {β α γ : Type} (o : Outcome β α) (f : α → Scene β → Outcome β γ) :
    Outcome β γ :=
  match o.result with
  | .error e => ⟨.error e, o.effects, o.scene⟩
  | .ok a =>
    let rest := f a o.scene
    ⟨rest.result, o.effects ++ rest.effects, rest.scene⟩

def Act (β α : Type) := Surroundings → Scene β → Outcome β α

namespace Act

variable {β α γ : Type}

protected def pure (a : α) : Act β α := fun _ s => ⟨.ok a, [], s⟩

protected def bind (x : Act β α) (f : α → Act β γ) : Act β γ := fun w s =>
  (x w s).andThen fun a => f a w

instance : Monad (Act β) where
  pure := Act.pure
  bind := Act.bind

theorem bind_apply (x : Act β α) (f : α → Act β γ) (w : Surroundings) (s : Scene β) :
    (x >>= f) w s = (x w s).andThen fun a => f a w := rfl

def say (events : List Event) : Act β Unit := fun _ s => ⟨.ok (), events.map .logged, s⟩

def log (level : Level) (speaker : Speaker) (message : String) : Act β Unit :=
  say [⟨level, speaker, message⟩]

def exit (e : Exit) : Act β α := fun _ s => ⟨.error e, [], s⟩

def readCounters (r : Read) : Act β (Except SourceError (List Snapshot)) := fun w s =>
  let reading := w.source.read s.progress.reads r
  ⟨.ok reading.result, .read r :: reading.notices.map .logged,
    { s with progress := { s.progress with reads := s.progress.reads ++ [r] } }⟩

/-- Waits, and stops there if that is asked for. -/
def pause (d : Duration) : Act β Unit := fun w s =>
  let progress := { s.progress with pauses := s.progress.pauses + 1 }
  if w.stops progress then ⟨.error .stopped, [.paused d, .stopRequested], { s with progress }⟩
  else ⟨.ok (), [.paused d], { s with progress }⟩

/-- Sends a request and waits for its answer, and stops there if that is asked for. -/
def send (r : Request) : Act β Answer := fun w s =>
  let progress := { s.progress with sent := s.progress.sent + 1 }
  if w.stops progress then ⟨.error .stopped, [.sent r none, .stopRequested], { s with progress }⟩
  else
    let answer := w.answer s.progress.sent
    ⟨.ok answer, [.sent r (some answer)], { s with progress }⟩

/-- Comes to a point at which it stops if that is asked for. -/
def checkpoint : Act β Unit := fun w s =>
  let progress := { s.progress with checkpoints := s.progress.checkpoints + 1 }
  if w.stops progress then ⟨.error .stopped, [.stopRequested], { s with progress }⟩
  else ⟨.ok (), [], { s with progress }⟩

/-- Uses the store and writes what it says. -/
def useStore (f : Store β → StoreReply β α) : Act β α := fun _ s =>
  let reply := f s.store
  ⟨.ok reply.answer, reply.events.map .logged, { s with store := reply.store }⟩

def record [Backend β] (row : Row) : Act β RecordAnswer := fun _ s =>
  let reply := s.store.record row
  ⟨.ok reply.answer, .recorded row reply.answer :: reply.events.map .logged,
    { s with store := reply.store }⟩

/-- Waits for the next round: gives its start, or nothing if the agent is to stop. -/
def nextRound : Act β (Option Time) := fun w s =>
  let progress := { s.progress with rounds := s.progress.rounds + 1 }
  if w.stops progress then ⟨.ok none, [.stopRequested], { s with progress }⟩
  else ⟨.ok (some (w.clock s.progress.rounds)), [], { s with progress }⟩

/-- Whether a computation came to its end; `none` if it was stopped. -/
def unlessStopped (x : Act β α) : Act β (Option α) := fun w s =>
  let o := x w s
  match o.result with
  | .ok a => ⟨.ok (some a), o.effects, o.scene⟩
  | .error .stopped => ⟨.ok none, o.effects, o.scene⟩
  | .error e => ⟨.error e, o.effects, o.scene⟩

end Act

end HostTelemetry
