import HostTelemetry.Effect
import HostTelemetry.Network.Host
import HostTelemetry.Wire.Json

/-!
# Delivering one body

A body is posted until the receiver takes it, refuses it for good, or the attempts are used up.
Transport failures and retryable statuses use up one attempt each; between two attempts the agent
waits, after the last one it does not.
-/

namespace HostTelemetry

inductive ShippingError where
  | payload (reason : String)
  | payloadTooLarge (size max : Nat)
  | destination (status : Option Status) (reason : String)
  | client (reason : String)
  | store (error : StoreError)
deriving DecidableEq, Repr

namespace ShippingError

def message : ShippingError → String
  | .payload reason => "failed to prepare payload: " ++ reason
  | .payloadTooLarge size max =>
    "payload of " ++ toString size ++ " bytes exceeds the maximum packet size of " ++
      toString max ++ " bytes"
  | .destination _ reason => "error shipping data: " ++ reason
  | .client reason => "failed to build http client: " ++ reason
  | .store error => error.message

/-- Whether the failure ends the delivery of a round with nothing left to try. -/
def isFatal : ShippingError → Bool
  | .payloadTooLarge _ _ | .destination _ _ | .client _ => true
  | .payload _ | .store _ => false

def status? : ShippingError → Option Status
  | .destination status _ => status
  | _ => none

end ShippingError

/-- How often a body is sent at most, and how long to wait in between. -/
inductive Retry where
  | immediate (attempts : Nat)
  | fixed (attempts : Nat) (interval : Duration)
deriving DecidableEq, Repr

namespace Retry

/-- At least one attempt is made. -/
def attempts : Retry → Nat
  | .immediate n => max n 1
  | .fixed n _ => max n 1

def interval : Retry → Duration
  | .immediate _ => .zero
  | .fixed _ d => d

end Retry

structure Link where
  endpoint : String
  retry : Retry
deriving DecidableEq, Repr

def receiverPath : String := "/api/v2/metric-data-receive"

/-- Whether a text names a proxy: a url that names a host, or a text that does so once the web scheme
is put in front of it. A proxy of an unknown scheme is one too, though it is never used. -/
def isProxy (s : String) : Bool :=
  match Network.hostFinding s.toList with
  | .named => true
  | .missing => Network.hostFinding (httpScheme ++ s.toList) = .named
  | .malformed => false

/-- Opens a link to the receiver below a base url. -/
def Link.open? (base : String) (proxy : Option String) (retry : Retry) :
    Except ShippingError Link :=
  match completeUrlText? base receiverPath with
  | none => .error (.client ("invalid url " ++ Text.quoted base))
  | some endpoint =>
    if proxy.all isProxy then .ok ⟨endpoint, retry⟩ else .error (.client "builder error")

namespace Link

variable {β : Type}

/-- The wait between two attempts; none is said or done for an interval of zero. -/
def waitBetween (l : Link) : Act β Unit :=
  if l.retry.interval.isZero then pure ()
  else do
    Act.log .debug .delivery
      ("Sleeping " ++ l.retry.interval.secondsText ++ "s before retrying")
    Act.pause l.retry.interval

def givenUp (l : Link) (last : Option Status) : ShippingError :=
  .destination last ("Failed to send request after " ++ toString l.retry.attempts ++ " attempts")

/-- The error for a status that another attempt cannot change. -/
def rejected (status : Status) : ShippingError :=
  .destination (some status) ("Request rejected with status " ++ status.text)

inductive Verdict where
  | delivered (r : Response)
  | refused (status : Status)
  | failed (status : Option Status)
deriving DecidableEq, Repr

def verdict : Answer → Verdict
  | .response r =>
    if r.status.isSuccess then .delivered r
    else if r.status.isRetryable then .failed (some r.status)
    else .refused r.status
  | .failed _ => .failed none

def answerEvents : Answer → List Event
  | .response r =>
    if r.status.isSuccess then []
    else if r.status.isRetryable then
      [⟨.warn, .delivery, r.status.text ++ ": Failed to push to InsightFinder: " ++
        Text.quoted r.body⟩]
    else
      [⟨.error, .delivery, r.status.text ++ ": InsightFinder rejected payload: " ++
        Text.quoted r.body⟩]
  | .failed reason => [⟨.warn, .delivery, "Error occurred sending to InsightFinder: " ++ reason⟩]

def attempt (l : Link) (body : String) (number : Nat) : Act β Verdict := do
  Act.log .debug .delivery
    ("Sending " ++ toString body.utf8ByteSize ++ " bytes to " ++ l.endpoint ++ " (attempt " ++
      toString number ++ "/" ++ toString l.retry.attempts ++ ")")
  let answer ← Act.send ⟨l.endpoint, body⟩
  if answer.isRead then Act.checkpoint
  Act.say (answerEvents answer)
  return verdict answer

/-- Attempts while some are left, the last status being known. -/
def postWithin (l : Link) (body : String) (last : Option Status) :
    Nat → Act β (Except ShippingError Response)
  | 0 => do
    Act.log .error .delivery
      ("HTTP connection failure after " ++ toString l.retry.attempts ++ " attempts")
    return .error (l.givenUp last)
  | left + 1 => do
    match ← l.attempt body (l.retry.attempts - left) with
    | .delivered r => return .ok r
    | .refused status => return .error (rejected status)
    | .failed status => do
      if left ≠ 0 then l.waitBetween
      l.postWithin body status left

def post (l : Link) (body : String) : Act β (Except ShippingError Response) :=
  l.postWithin body none l.retry.attempts

end Link

end HostTelemetry
