import CloudSession.Defaults
import CloudSession.Http.Wire
import CloudSession.Text.Find

/-! # Retry handlers

A retry handler tells whether a failed response is worth another attempt, and releases the
response. How many attempts there are is up to the transport.
-/

namespace CloudSession

/-- How the end of a session lease is told. What settings hold is found out when it is used. -/
structure Renewal where
  marker : Value := .text Defaults.leaseMarker
  userHeader : Value := .text Defaults.userHeader
  keyHeader : Value := .text Defaults.keyHeader
  tokenHeader : Value := .text Defaults.tokenHeader
  maxPayload : Value := .int Defaults.maxPayloadBytes

/-- How long to nap before another attempt. What settings hold is found out when it is used. -/
structure Backoff where
  limit : Value := .int Defaults.maxRetries
  delayStart : Value := .number Defaults.retryDelayStart
  maxDelay : Value := .number Defaults.maxDelay
  statuses : Value := .list (Defaults.transientStatuses.map .int)

inductive RetryHandler (σ : Type) where
  /-- Nothing is worth another attempt. -/
  | decline
  /-- A lease that has run out is worth one, with a session that is fetched anew. -/
  | renew (renewal : Renewal) (invalidate : Act σ Unit)
  /-- A transient failure of the server is worth one, after a nap. -/
  | backoff (backoff : Backoff)
  /-- One handler for statuses from 400, one for statuses from 500. -/
  | delegating (client server : RetryHandler σ)
  deriving Inhabited

namespace Renewal

/-- A login carries user and key and no token; none when names cannot be compared. -/
def isLogin? (r : Renewal) (request : Request) : Option Bool := do
  if !(← request.headers.has? r.userHeader) then return false
  if !(← request.headers.has? r.keyHeader) then return false
  return !(← request.headers.has? r.tokenHeader)

/-- Whether a body tells of the end of the lease; none when the marker is no text to look for. -/
def isMarked? (r : Renewal) (body : Option String) : Option Bool :=
  match body, r.marker with
  | none, _ => some false
  | some body, .text marker => some (Text.isWithin marker body)
  | some _, _ => none

end Renewal

namespace Backoff

/-- Whether a status tells of a transient failure; none when the statuses are no collection. -/
def isTransient? (b : Backoff) (status : Int) : Option Bool :=
  match b.statuses with
  | .list statuses => some (statuses.any (· == .int status))
  | .pairs _ => some false
  | _ => none

/-- Seconds to nap before the attempt after `failures` failures: each nap is twice the one before
it, up to the longest. The doubling must not leave the doubles. -/
def delay (b : Backoff) (failures : Int) : Except FaultKind Number := do
  let some start := b.delayStart.asNumber? | throw .type
  let some delay := start.timesPowerOfTwo (failures - 1) | throw .overflow
  let some longest := b.maxDelay.asNumber? | throw .type
  return delay.min longest

end Backoff

namespace RetryHandler

variable {σ : Type}

/-- Nap for the double next to a number of seconds, if there is one. -/
def nap (seconds : Number) : Act σ Unit :=
  match seconds.toFloat? with
  | none => Act.failKind .overflow
  | some x => Act.nap x

variable [Wired σ]

/-- The part of `shouldRetry` before the response is released. -/
def renewIfMarked (renewal : Renewal) (invalidate : Act σ Unit) (command : Command)
    (response : ResponseId) : Act σ Bool := do
  if (← Wire.response response).status ≠ 401 then return false
  if ← Act.demand (renewal.isLogin? command.current) .attribute then return false
  let body ← Wire.readPayload response renewal.maxPayload
  if ← Act.demand (renewal.isMarked? body) .type then
    invalidate
    return true
  else return false

/-- The part of `shouldRetry` before the response is released. -/
def napIfTransient (b : Backoff) (command : Command) (response : ResponseId) : Act σ Bool := do
  let failures := command.failures + 1
  if !(← Act.demand (b.isTransient? (← Wire.response response).status) .type) then return false
  if (← Act.demand b.limit.asNumber? .type).lt (.whole failures) then return false
  match b.delay failures with
  | .error kind => Act.failKind kind
  | .ok seconds =>
    nap seconds
    return true

/-- Whether a failed response is worth another attempt; the response is released. -/
def shouldRetry : RetryHandler σ → Command → ResponseId → Act σ Bool
  | .decline, _, response => do
    Wire.release response
    return false
  | .renew renewal invalidate, command, response =>
    (renewIfMarked renewal invalidate command response).andFinally (Wire.release response)
  | .backoff b, command, response =>
    (napIfTransient b command response).andFinally (Wire.release response)
  | .delegating client server, command, response => do
    let status := (← Wire.response response).status
    if 400 ≤ status && status < 500 then client.shouldRetry command response
    else if 500 ≤ status then server.shouldRetry command response
    else
      Wire.release response
      return false

end RetryHandler

end CloudSession
