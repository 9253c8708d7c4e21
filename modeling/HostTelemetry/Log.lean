/-!
# Log lines

What the agent says about its work: a level, the part of the agent that speaks, and a message.
-/

namespace HostTelemetry

inductive Level where
  | error
  | warn
  | info
  | debug
deriving DecidableEq, Repr

def Level.name : Level → String
  | .error => "ERROR"
  | .warn => "WARN"
  | .info => "INFO"
  | .debug => "DEBUG"

/-- Position among the verbosities of a filter, where 0 shows nothing and 5 everything. -/
def Level.verbosity : Level → Nat
  | .error => 1
  | .warn => 2
  | .info => 3
  | .debug => 4

inductive Speaker where
  | agent
  | rounds
  | settings
  | sampling
  | kernel
  | store
  | flush
  | delivery
  | text
deriving DecidableEq, Repr

/-- The path under which a part is named in the output. -/
def Speaker.path : Speaker → String
  | .agent => "dex_agent"
  | .rounds => "dex_agent::round"
  | .settings => "dex_agent::config"
  | .sampling => "dex_metrics_collector::engine"
  | .kernel => "dex_metrics_collector::linux"
  | .store => "insightfinder::store"
  | .flush => "insightfinder::flusher"
  | .delivery => "insightfinder::api"
  | .text => "insightfinder::util"

structure Event where
  level : Level
  speaker : Speaker
  message : String
deriving DecidableEq, Repr

/-- A number below 256 as two digits in base sixteen. -/
def twoHexDigits (n : Nat) : List Char := [Nat.digitChar (n / 16), Nat.digitChar (n % 16)]

/-- A character in a printed message. One that would drive the terminal is shown by its number. -/
def terminalSafe (c : Char) : List Char :=
  if "\x07\x08\x0c\x1b\x7f".toList.contains c then '\\' :: 'x' :: twoHexDigits c.toNat
  else if 0x80 ≤ c.toNat ∧ c.toNat ≤ 0x9F then
    ['\\', 'u', '\x7b'] ++ twoHexDigits c.toNat ++ ['\x7d']
  else [c]

/-- The line as it is printed: the level right-aligned in five columns. -/
def Event.line (e : Event) : String :=
  let pad := String.ofList (List.replicate (5 - e.level.name.length) ' ')
  pad ++ e.level.name ++ " " ++ e.speaker.path ++ ": " ++
    String.ofList (e.message.toList.flatMap terminalSafe)

end HostTelemetry
