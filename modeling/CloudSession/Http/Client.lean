import CloudSession.Http.ErrorStyle
import CloudSession.Http.Retry
import CloudSession.Http.Transport

/-! # Clients

A client is a transport with the retry handlers and error handlers at hand.
-/

namespace CloudSession

structure Client (σ : Type) where
  filters : List (Filter σ) := []
  retry : Option (RetryHandler σ) := none
  errors : Option ErrorStyle := none
  maxRetries : Value := .int Defaults.maxRetries
  timeout : Value := .int Defaults.httpTimeout
  verify : Verify := .on

namespace Client

variable {σ : Type}

def withFilters (c : Client σ) (filters : List (Filter σ)) : Client σ :=
  { c with filters := c.filters ++ filters }

variable [Wired σ]

def transport (c : Client σ) : Transport σ where
  filters := c.filters
  retry := c.retry.map RetryHandler.shouldRetry
  errors := c.errors.map ErrorStyle.fail
  maxRetries := c.maxRetries
  timeout := c.timeout
  verify := c.verify

def filter (c : Client σ) (request : Request) : Act σ Request := c.transport.filter request

def limit? (c : Client σ) : Option Nat := c.transport.limit?

def waiting (c : Client σ) (timeout : Value) : Value := c.transport.waiting timeout

def accepts (c : Client σ) (command : Command) (response : ResponseId) : Act σ Bool :=
  c.transport.accepts command response

def conclude (c : Client σ) (command : Command) (response : ResponseId) : Act σ ResponseId :=
  c.transport.conclude command response

def judge (c : Client σ) (command : Command) (response : ResponseId) :
    Act σ (Except Due ResponseId) :=
  c.transport.judge command response

def trip (c : Client σ) (asked : Request) (timeout : Value) (failures : Nat) :
    Act σ (Except Due ResponseId) :=
  c.transport.trip asked timeout failures

def tripThen (c : Client σ) (asked : Request) (timeout : Value) (failures : Nat)
    (next : Due → Act σ ResponseId) : Act σ ResponseId :=
  c.transport.tripThen asked timeout failures next

def giveUp (c : Client σ) : Due → Act σ ResponseId := c.transport.giveUp

def trips (c : Client σ) (asked : Request) (timeout : Value) (left failures : Nat) :
    Act σ ResponseId :=
  c.transport.trips asked timeout left failures

def execute (c : Client σ) (request : Request) (timeout : Value := .null) : Act σ ResponseId :=
  c.transport.execute request timeout

/-! ## The transport of a client, in terms of its handlers -/

variable {c : Client σ} {asked : Request} {timeout : Value}

theorem filter_eq : c.filter asked = c.filters.foldlM (fun r f => f r) asked := rfl

theorem accepts_eq (command : Command) (response : ResponseId) :
    c.accepts command response =
      match c.retry with
      | none => pure false
      | some handler => handler.shouldRetry command response := by
  simp only [accepts, Transport.accepts, transport]
  cases c.retry <;> rfl

theorem conclude_eq (command : Command) (response : ResponseId) :
    c.conclude command response =
      match c.errors with
      | none => pure response
      | some style => do
        style.fail command response
        return response := by
  simp only [conclude, Transport.conclude, transport]
  cases c.errors <;> rfl

theorem judge_eq (command : Command) (response : ResponseId) :
    c.judge command response = (do
      if (← Wire.response response).status < 300 then return .ok response
      if ← c.accepts command response then return .error (.accepted command response)
      return .ok (← c.conclude command response)) :=
  rfl

theorem trip_eq (failures : Nat) :
    c.trip asked timeout failures = (do
      let current ← c.filter asked
      match ← Act.attempt (Wire.send ⟨current, timeout, c.verify⟩) with
      | .error i => if ← Act.is FaultKind.isConnection i then return .error (.cut i) else throw i
      | .ok response => c.judge ⟨asked, current, failures⟩ response) :=
  rfl

theorem tripThen_eq (failures : Nat) (next : Due → Act σ ResponseId) :
    c.tripThen asked timeout failures next = (do
      match ← c.trip asked timeout failures with
      | .ok response => return response
      | .error due => next due) :=
  rfl

theorem trips_zero (failures : Nat) :
    c.trips asked timeout 0 failures = c.tripThen asked timeout failures c.giveUp := rfl

theorem trips_succ (left failures : Nat) :
    c.trips asked timeout (left + 1) failures =
      c.tripThen asked timeout failures fun _ => c.trips asked timeout left (failures + 1) := rfl

theorem execute_eq : c.execute asked timeout =
    match c.limit? with
    | some limit => c.trips asked (c.waiting timeout) limit 0
    | none => c.tripThen asked (c.waiting timeout) 0 Transport.loseCount := rfl

end Client

end CloudSession
