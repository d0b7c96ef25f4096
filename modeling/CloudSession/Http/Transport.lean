import CloudSession.Http.Wire

/-! # Transport

A request goes through its filters on every attempt, so that an attempt after a renewal is signed
anew. A cut line and a response the retry handler accepts are worth another attempt, as long as
there are any left; else the fault of the last attempt is the outcome. What filters and handlers do
is up to them.
-/

namespace CloudSession

/-- What makes another request of a request, such as signing it. -/
abbrev Filter (σ : Type) := Request → Act σ Request

/-- Whether a failed response is worth another attempt. -/
abbrev Consult (σ : Type) := Command → ResponseId → Act σ Bool

/-- What to make of a failed response that is not worth another attempt. -/
abbrev Objection (σ : Type) := Command → ResponseId → Act σ Unit

structure Transport (σ : Type) where
  filters : List (Filter σ) := []
  retry : Option (Consult σ) := none
  errors : Option (Objection σ) := none
  /-- How many more attempts there may be; a limit that is no number is found out when it counts. -/
  maxRetries : Value
  timeout : Value
  verify : Verify := .on

/-- Why another attempt is due. -/
inductive Due where
  /-- The line was cut. -/
  | cut (fault : FaultId)
  /-- The retry handler accepts the response. -/
  | accepted (command : Command) (response : ResponseId)

namespace Transport

variable {σ : Type}

def filter (t : Transport σ) (request : Request) : Act σ Request :=
  t.filters.foldlM (fun r f => f r) request

/-- How many failures may be followed by another attempt; none when they cannot be counted. -/
def limit? (t : Transport σ) : Option Nat :=
  t.maxRetries.asNumber?.map fun limit => limit.floor.toNat

/-- The seconds to wait: those asked for, if they hold. -/
def waiting (t : Transport σ) (timeout : Value) : Value :=
  if timeout.holds then timeout else t.timeout

/-- Whether the retry handler, if there is one, accepts a response. -/
def accepts (t : Transport σ) (command : Command) (response : ResponseId) : Act σ Bool :=
  match t.retry with
  | none => pure false
  | some consult => consult command response

/-- The end of a command that failed with a response: the response, unless the error handler ends
on a fault. -/
def conclude (t : Transport σ) (command : Command) (response : ResponseId) : Act σ ResponseId :=
  match t.errors with
  | none => pure response
  | some object => do
    object command response
    return response

/-- The end where no attempt is left; the last failure counts as well. -/
def giveUp (t : Transport σ) : Due → Act σ ResponseId
  | .cut i => throw i
  | .accepted command response => t.conclude command.failed response

/-- The end where failures cannot be counted, as the limit is no number. -/
def loseCount : Due → Act σ ResponseId
  | .cut i => Act.failKindWhile i .type
  | .accepted _ _ => Act.failKind .type

variable [Wired σ]

/-- What a response leads to. -/
def judge (t : Transport σ) (command : Command) (response : ResponseId) :
    Act σ (Except Due ResponseId) := do
  if (← Wire.response response).status < 300 then return .ok response
  if ← t.accepts command response then return .error (.accepted command response)
  return .ok (← t.conclude command response)

/-- One attempt: the response it ends with, or why another one is due. -/
def trip (t : Transport σ) (asked : Request) (timeout : Value) (failures : Nat) :
    Act σ (Except Due ResponseId) := do
  let current ← t.filter asked
  match ← Act.attempt (Wire.send ⟨current, timeout, t.verify⟩) with
  | .error i => if ← Act.is FaultKind.isConnection i then return .error (.cut i) else throw i
  | .ok response => t.judge ⟨asked, current, failures⟩ response

/-- One attempt, and what follows where another one is due. -/
def tripThen (t : Transport σ) (asked : Request) (timeout : Value) (failures : Nat)
    (next : Due → Act σ ResponseId) : Act σ ResponseId := do
  match ← t.trip asked timeout failures with
  | .ok response => return response
  | .error due => next due

/-- Attempts after `failures` failures, with `left` attempts behind the next one. -/
def trips (t : Transport σ) (asked : Request) (timeout : Value) :
    (left failures : Nat) → Act σ ResponseId
  | 0, failures => t.tripThen asked timeout failures t.giveUp
  | left + 1, failures =>
    t.tripThen asked timeout failures fun _ => trips t asked timeout left (failures + 1)

def execute (t : Transport σ) (request : Request) (timeout : Value := .null) : Act σ ResponseId :=
  match t.limit? with
  | some limit => t.trips request (t.waiting timeout) limit 0
  | none => t.tripThen request (t.waiting timeout) 0 loseCount

end Transport

end CloudSession
