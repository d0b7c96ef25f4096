import CloudSession.Supplier
import CloudSession.Supplier.Desk

/-! # Traffic at a supplier

Many callers at one supplier at a time. The first one who finds nothing fresh leads a flight and
is then inside its fetch; those who arrive meanwhile wait for that flight and end as its leader
does. What may happen next, and in which order, is a list of events, and a caller gets on by one
look at what the callers share at a time: between any two looks everybody else may do anything.
-/

namespace CloudSession

structure Manner where
  name : String
  /-- Seconds a value stays fresh; none where the settings give no number. -/
  ttl : Option Number
  maxAttempts : Int

namespace Manner

/-- The attempts that settings ask for: at least one, and none when they hold no number. -/
def attempts? (attempts : Value) : Option Number := attempts.asNumber?.map (Number.max (.whole 1))

/-- How a supplier is set up by settings, which must tell how many attempts there are. An attempt
is the last one when its number is at least the one asked for. -/
def of? (name : String) (ttl attempts : Value) : Option Manner :=
  (attempts? attempts).map fun n => ⟨name, ttl.asNumber?, n.ceil⟩

end Manner

structure Traffic (α : Type) extends Desk α where
  clock : Float
  log : FaultLog := {}
  latch : Latch := {}

inductive Landing (α : Type) where
  | value (a : α)
  | fault (plan : FaultPlan)
  /-- With a fault that somebody met before. -/
  | known (fault : FaultId)

inductive Event (α : Type) where
  /-- Somebody calls, with a budget of seconds or without one. -/
  | call (name : String) (timeout : Option Number)
  | go (caller : Nat)
  | expire (caller : Nat)
  /-- A fetch that is under way ends. -/
  | land (call : Nat) (landing : Landing α)
  | invalidate
  | pass (seconds : Float)
  | setClock (time : Float)
  | trySet (plan : FaultPlan)
  | trySetKnown (fault : FaultId)

/-- What the one who caused an event is told. -/
inductive Told where
  | nothing
  | noSuchFetch
  | latched (first : Bool)
  deriving Repr, DecidableEq

namespace Traffic

variable {α : Type}

def atDesk (t : Traffic α) (act : Desk α → Desk α) : Traffic α :=
  { t with toDesk := act t.toDesk }

def note (t : Traffic α) (fault : Fault) : Traffic α × FaultId :=
  let (log, i) := t.log.add fault
  ({ t with log := log }, i)

/-- The leader looks at the latch before an attempt. Nothing keeps others from setting it between
this look and the call of the fetch that follows it. -/
def attempt (t : Traffic α) (caller : Nat) (ticket : Ticket) (count : Nat)
    (deadline : Option Float) : Traffic α :=
  match t.latch.fault with
  | some fault => t.atDesk (·.setStage caller (.landing ticket (.error fault)))
  | none => t.atDesk (·.setStage caller (.calling ticket count deadline))

/-- The leader's fetch ended with a fault, after `count` attempts before it. -/
def fetchFailed (m : Manner) (t : Traffic α) (caller : Nat) (ticket : Ticket) (count : Nat)
    (deadline : Option Float) (fault : FaultId) : Traffic α :=
  match t.log.verdict fault with
  | .handOn => t.atDesk (·.setStage caller (.landing ticket (.error fault)))
  | .rejected rejection =>
    let latch := (t.latch.trySet rejection).2
    let held := latch.fault.getD rejection
    { t with latch := latch, log := t.log.arise held fault }.atDesk
      (·.setStage caller (.landing ticket (.error held)))
  | .timedOut =>
    if (count + 1 : Nat) < m.maxAttempts && !Supplier.isDue deadline t.clock then
      t.atDesk (·.setStage caller (.attempting ticket (count + 1) deadline))
    else
      let (t, report) := t.note { givenUp m.name (count + 1) with cause := some fault }
      { t with log := t.log.arise report fault }.atDesk
        (·.setStage caller (.landing ticket (.error report)))

/-- The time at which a budget of seconds is spent, unless it is beyond all times. -/
def deadline? (t : Traffic α) : Option Number → Option (Option Float)
  | none => some none
  | some seconds => seconds.toFloat?.map fun x => some (t.clock + x)

def call (t : Traffic α) (name : String) (timeout : Option Number) : Traffic α :=
  match t.latch.fault with
  | some fault => t.atDesk (·.welcome name (.done (.error fault)))
  | none =>
    match t.deadline? timeout with
    | some deadline => t.atDesk (·.welcome name (.entering deadline))
    | none =>
      let (t, fault) := t.note { kind := .overflow }
      t.atDesk (·.welcome name (.done (.error fault)))

def enter (m : Manner) (t : Traffic α) (caller : Nat) (deadline : Option Float) : Traffic α :=
  match t.cell.arrive m.ttl t.clock with
  | .served value => t.atDesk (·.serve caller value t.clock)
  | .joins flight => t.atDesk (·.join caller flight deadline)
  | .leads => t.atDesk (·.launch caller deadline)
  | .unjudged =>
    let (t, fault) := t.note { kind := .type }
    t.atDesk (·.setStage caller (.done (.error fault)))

/-- A waiting caller ends as his flight did, once it did. -/
def wake (t : Traffic α) (caller : Nat) (flight : FlightId) : Traffic α :=
  match t.ending? flight with
  | some outcome => t.atDesk (·.setStage caller (.done outcome))
  | none => t

/-- A caller gets on, if he can. -/
def go (m : Manner) (t : Traffic α) (caller : Nat) : Traffic α :=
  match t.stage? caller with
  | some (.entering deadline) => t.enter m caller deadline
  | some (.attempting ticket count deadline) => t.attempt caller ticket count deadline
  | some (.calling ticket count deadline) => t.atDesk (·.callFetch caller ticket count deadline)
  | some (.landing ticket outcome) => t.atDesk (·.touchDown caller ticket t.clock outcome)
  | some (.waiting flight _) => t.wake caller flight
  | some (.fetching _ _ _ _) | some (.done _) | none => t

/-- The time of a caller is spent, who gives up if he waits for a flight and has a budget. -/
def expire (m : Manner) (t : Traffic α) (caller : Nat) : Traffic α :=
  match t.stage? caller with
  | some (.waiting _ (some _)) =>
    let (t, fault) := t.note { givenUp m.name 0 with }
    t.atDesk (·.giveUp caller fault)
  | _ => t

/-- The leader who is inside a fetch. -/
def leader? (t : Traffic α) (call : Nat) : Option (Nat × Ticket × Nat × Option Float) :=
  t.callers.zipIdx.findSome? fun (c, i) =>
    match c.stage with
    | .fetching n ticket count deadline =>
      if n = call then some (i, ticket, count, deadline) else none
    | _ => none

def land (m : Manner) (t : Traffic α) (call : Nat) (landing : Landing α) : Told × Traffic α :=
  match t.leader? call with
  | none => (.noSuchFetch, t)
  | some (caller, ticket, count, deadline) =>
    match landing with
    | .value a => (.nothing, t.atDesk (·.setStage caller (.landing ticket (.ok a))))
    | .fault plan =>
      let (log, fault) := t.log.make plan
      (.nothing, fetchFailed m { t with log := log } caller ticket count deadline fault)
    | .known fault => (.nothing, fetchFailed m t caller ticket count deadline fault)

def trySet (t : Traffic α) (fault : FaultId) : Told × Traffic α :=
  let (first, latch) := t.latch.trySet fault
  (.latched first, { t with latch := latch })

def step (m : Manner) (t : Traffic α) : Event α → Told × Traffic α
  | .call name timeout => (.nothing, t.call name timeout)
  | .go caller => (.nothing, t.go m caller)
  | .expire caller => (.nothing, t.expire m caller)
  | .land n landing => t.land m n landing
  | .invalidate => (.nothing, t.atDesk Desk.forget)
  | .pass seconds => (.nothing, { t with clock := t.clock + seconds })
  | .setClock time => (.nothing, { t with clock := time })
  | .trySet plan =>
    let (log, fault) := t.log.make plan
    { t with log := log }.trySet fault
  | .trySetKnown fault => t.trySet fault

def run (m : Manner) (t : Traffic α) (events : List (Event α)) : Traffic α :=
  events.foldl (fun t event => (t.step m event).2) t

/-- Whether a caller waits whose time is spent. -/
def isSpent (t : Traffic α) (caller : Nat) : Bool :=
  match t.stage? caller with
  | some (.waiting _ deadline) => Supplier.isDue deadline t.clock
  | _ => false

/-- A caller gets on as far as he can. No way leads over more than three looks. -/
def carryOn (m : Manner) (t : Traffic α) (caller : Nat) : Traffic α :=
  let t := t.run m (List.replicate 3 (.go caller))
  if t.isSpent caller then t.expire m caller else t

/-- All who can get on do so, in the order of the calls. -/
def settle (m : Manner) (t : Traffic α) : Traffic α :=
  (List.range t.callers.length).foldl (carryOn m) t

/-- What an event leads to when all who can get on do so at once. -/
def play (m : Manner) (t : Traffic α) (event : Event α) : Told × Traffic α :=
  let (told, t) := t.step m event
  (told, t.settle m)

end Traffic

end CloudSession
