import HostTelemetry.Log.Filter
import HostTelemetry.Round
import HostTelemetry.Settings

/-!
# The agent

From the variables to the rounds: the filter of its log, its settings, the link to the receiver,
and what it says on the way. Settings that are not accepted or a link that cannot be opened end the
agent before the first round.
-/

namespace HostTelemetry.Agent

/-- The filter of the log: the level that is asked for, and silence for the libraries below. -/
def logFilter (vars : Settings.Variables) : LogFilter :=
  let level := ((vars "IF_LOG_LEVEL").map Text.lowered).getD "info"
  LogFilter.ofLevel ("h2=off,hyper=off,rustls=off," ++ level)

inductive Startup where
  | refused
  | ready (settings : Settings) (collector : Collector)

def readyEvent (s : Settings) : Event :=
  ⟨.info, .agent, "Starting dex agent for project " ++ s.project ++ " as instance " ++
    s.instanceName ++ ", collecting every " ++ toString s.roundInterval.seconds ++ "s"⟩

def start (vars : Settings.Variables) (kernelHost : Option String) (source : CounterSource) :
    Startup × List Event :=
  let opening : List Event :=
    ⟨.debug, .agent, "Logging subsystem enabled"⟩ :: Settings.loadEvents vars kernelHost
  match Settings.load vars kernelHost with
  | .error e =>
    (.refused, opening ++
      [⟨.error, .agent, "Error creating config on dex agent startup: " ++ e.message⟩])
  | .ok s =>
    let opening := opening ++ urlEvents s.url
    match s.flushSettings.open? with
    | .error e =>
      (.refused, opening ++
        [⟨.error, .agent, "Error creating InsightFinder client: " ++ e.message⟩])
    | .ok flusher =>
      let sampling := Sampling.new source s.samplingWindow s.perCpu
      (.ready s ⟨sampling, flusher⟩, opening ++ unsupportedEvents source catalog ++
        [readyEvent s])

/-- The log lines among some effects; a request to stop is acknowledged. -/
def spoken (effects : List Effect) : List Event :=
  effects.filterMap fun e =>
    match e with
    | .logged e => some e
    | .stopRequested => some ⟨.info, .agent, "Received shutdown signal"⟩
    | _ => none

def printed (filter : LogFilter) (events : List Event) : List String :=
  (events.filter filter.shows).map Event.line

end HostTelemetry.Agent
