import HostTelemetry.Flush
import HostTelemetry.Text.LowerCase

/-!
# Settings

The settings of the agent, read from variables once at its start. Values are trimmed and a blank
value counts as not set. A variable that is set but cannot be read is an error, never replaced by
its default; what has been read is then checked as a whole.
-/

namespace HostTelemetry

structure Settings where
  url : String := "https://app.insightfinder.com"
  user : String := ""
  license : String := ""
  project : String := ""
  system : Option String := none
  /-- The name under which the system-wide instance is published. -/
  instanceName : String := "unknown"
  component : Option String := none
  proxy : Option String := none
  /-- The time between the starts of two rounds. -/
  roundInterval : Duration := .ofSeconds 300
  /-- The time between the two reads of a counter. -/
  samplingWindow : Duration := .ofSeconds 2
  chunkThreshold : Nat := 2097152
  maxPacketSize : Nat := 10000000
  retryAttempts : Nat := 15
  retryInterval : Duration := .ofSeconds 60
  requestTimeout : Duration := .ofSeconds 30
  /-- Also publish each processor on its own. -/
  perCpu : Bool := false
  logLevel : String := "info"
deriving DecidableEq, Repr

inductive SettingsError where
  | required (name : String)
  | noInterval
  | windowOutOfRange
  | noChunkSize
  | packetBelowChunk (packet chunk : Nat)
  | noAttempts
  | unknownLogLevel (level : String)
  | notADuration (name value : String)
  | notANumber (name value : String)
  | notASwitch (name value : String)
  | other (reason : String)
deriving DecidableEq, Repr

def logLevelNames : List String := ["trace", "debug", "info", "warn", "error"]

def maxSamplingWindow : Duration := .ofSeconds 60

def SettingsError.reason : SettingsError → String
  | .required name => name ++ " is required"
  | .noInterval => "IF_RUN_INTERVAL must be greater than 0"
  | .windowOutOfRange =>
    "IF_SAMPLING_WINDOW must be between 1s and " ++ toString maxSamplingWindow.seconds ++ "s"
  | .noChunkSize => "IF_CHUNK_SIZE must be greater than 0"
  | .packetBelowChunk packet chunk =>
    "IF_MAX_PACKET_SIZE (" ++ toString packet ++ ") must not be smaller than IF_CHUNK_SIZE (" ++
      toString chunk ++ ")"
  | .noAttempts => "IF_RETRY_TIMES must be at least 1"
  | .unknownLogLevel level =>
    "Invalid log level '" ++ level ++ "'. Must be one of: " ++ ", ".intercalate logLevelNames
  | .notADuration name value =>
    name ++ " must be a number of seconds or end with s, m or h, got '" ++ value ++ "'"
  | .notANumber name value =>
    name ++ " must be a non-negative integer, got '" ++ value ++ "'"
  | .notASwitch name value => name ++ " must be true or false, got '" ++ value ++ "'"
  | .other reason => reason

def SettingsError.message (e : SettingsError) : String := "Invalid configuration: " ++ e.reason

namespace Settings

/-! ### Checking -/

/-- The first of some named texts that is blank. -/
def firstBlank? (texts : List (String × String)) : Option String :=
  (texts.find? fun t => Text.isBlankText t.2).map (·.1)

/-- Accepts settings that make sense together; of several faults the first one is named. -/
def validate (s : Settings) : Except SettingsError Unit :=
  match firstBlank? [("IF_URL", s.url), ("IF_USER_NAME", s.user), ("IF_LICENSE_KEY", s.license),
      ("IF_PROJECT_NAME", s.project), ("IF_INSTANCE_NAME", s.instanceName)] with
  | some name => .error (.required name)
  | none =>
    if s.roundInterval.isZero then .error .noInterval
    else if s.samplingWindow.totalNanos < (Duration.ofSeconds 1).totalNanos ∨
        maxSamplingWindow.totalNanos < s.samplingWindow.totalNanos then .error .windowOutOfRange
    else if s.chunkThreshold = 0 then .error .noChunkSize
    else if s.maxPacketSize < s.chunkThreshold then
      .error (.packetBelowChunk s.maxPacketSize s.chunkThreshold)
    else if s.retryAttempts = 0 then .error .noAttempts
    else if !logLevelNames.contains s.logLevel then .error (.unknownLogLevel s.logLevel)
    else .ok ()

/-! ### Reading -/

/-- The variables of the agent: the value of a variable that is set. -/
abbrev Variables := String → Option String

/-- The names of the variables that are looked at. -/
def variableNames : List String :=
  ["IF_URL", "IF_USER_NAME", "IF_LICENSE_KEY", "IF_PROJECT_NAME", "IF_SYSTEM_NAME",
    "IF_INSTANCE_NAME", "HOSTNAME", "IF_COMPONENT_NAME", "IF_HTTPS_PROXY", "HTTPS_PROXY",
    "IF_RUN_INTERVAL", "IF_SAMPLING_WINDOW", "IF_CHUNK_SIZE", "IF_MAX_PACKET_SIZE",
    "IF_RETRY_TIMES", "IF_RETRY_INTERVAL", "IF_REQUEST_TIMEOUT", "IF_PER_CPU_METRICS",
    "IF_LOG_LEVEL"]

/-- The trimmed value of a variable, if it is not blank. -/
def value? (vars : Variables) (name : String) : Option String :=
  ((vars name).map Text.trimmed).filter fun s => !s.isEmpty

def durationOr (vars : Variables) (name : String) (default : Duration) :
    Except SettingsError Duration :=
  match value? vars name with
  | none => .ok default
  | some raw =>
    match readDuration? raw with
    | some d => .ok d
    | none => .error (.notADuration name raw)

/-- A number below `2 ^ 64`, or the default if the variable is not set. -/
def numberOr (vars : Variables) (name : String) (default : Nat) : Except SettingsError Nat :=
  match value? vars name with
  | none => .ok default
  | some raw =>
    match Decimal.readNatural? Decimal.limit64 raw.toList with
    | some n => .ok n
    | none => .error (.notANumber name raw)

/-- What a switch is set to, regardless of case. -/
def readSwitch? (raw : String) : Option Bool :=
  let s := Text.lowered raw
  if s = "true" ∨ s = "1" ∨ s = "yes" then some true
  else if s = "false" ∨ s = "0" ∨ s = "no" then some false
  else none

def switchOr (vars : Variables) (name : String) (default : Bool) : Except SettingsError Bool :=
  match value? vars name with
  | none => .ok default
  | some raw =>
    match readSwitch? raw with
    | some b => .ok b
    | none => .error (.notASwitch name raw)

/-- The name of the host, if a variable or the kernel knows it. -/
def hostName? (vars : Variables) (kernelHost : Option String) : Option String :=
  (value? vars "HOSTNAME").or ((kernelHost.map Text.trimmed).filter fun s => !s.isEmpty)

/-- Reads settings without checking them. The variables are read in the order of the members. -/
def read (vars : Variables) (kernelHost : Option String) : Except SettingsError Settings := do
  let defaults : Settings := {}
  let roundInterval ← durationOr vars "IF_RUN_INTERVAL" defaults.roundInterval
  let samplingWindow ← durationOr vars "IF_SAMPLING_WINDOW" defaults.samplingWindow
  let chunkThreshold ← numberOr vars "IF_CHUNK_SIZE" defaults.chunkThreshold
  let maxPacketSize ← numberOr vars "IF_MAX_PACKET_SIZE" defaults.maxPacketSize
  let retryAttempts ← numberOr vars "IF_RETRY_TIMES" defaults.retryAttempts
  let retryInterval ← durationOr vars "IF_RETRY_INTERVAL" defaults.retryInterval
  let requestTimeout ← durationOr vars "IF_REQUEST_TIMEOUT" defaults.requestTimeout
  let perCpu ← switchOr vars "IF_PER_CPU_METRICS" defaults.perCpu
  return {
    url := (value? vars "IF_URL").getD defaults.url
    user := (value? vars "IF_USER_NAME").getD ""
    license := (value? vars "IF_LICENSE_KEY").getD ""
    project := (value? vars "IF_PROJECT_NAME").getD ""
    system := value? vars "IF_SYSTEM_NAME"
    instanceName := ((value? vars "IF_INSTANCE_NAME").or (hostName? vars kernelHost)).getD
      defaults.instanceName
    component := value? vars "IF_COMPONENT_NAME"
    proxy := (value? vars "IF_HTTPS_PROXY").or (value? vars "HTTPS_PROXY")
    roundInterval, samplingWindow, chunkThreshold, maxPacketSize, retryAttempts, retryInterval,
    requestTimeout, perCpu
    logLevel := ((value? vars "IF_LOG_LEVEL").map Text.lowered).getD defaults.logLevel }

def load (vars : Variables) (kernelHost : Option String) : Except SettingsError Settings := do
  let s ← read vars kernelHost
  s.validate
  return s

/-- What is said while settings are read: that nobody knows the name of the host, and what is wrong
with a duration. -/
def loadEvents (vars : Variables) (kernelHost : Option String) : List Event :=
  let nameless := (value? vars "IF_INSTANCE_NAME").isNone && (hostName? vars kernelHost).isNone
  let host :=
    if nameless then [⟨.warn, .settings, "Could not determine hostname, using 'unknown'"⟩] else []
  match load vars kernelHost with
  | .error (.notADuration _ raw) => host ++ durationEvents raw
  | _ => host

/-! ### Use -/

def retry (s : Settings) : Retry := .fixed s.retryAttempts s.retryInterval

def flushSettings (s : Settings) : FlushSettings where
  url := s.url
  user := s.user
  license := s.license
  project := s.project
  system := s.system
  instanceName := s.instanceName
  component := s.component
  samplingInterval := some s.roundInterval
  proxy := s.proxy
  timeout := s.requestTimeout
  retry := s.retry
  chunkThreshold := s.chunkThreshold
  maxPacketSize := s.maxPacketSize

end Settings

end HostTelemetry
