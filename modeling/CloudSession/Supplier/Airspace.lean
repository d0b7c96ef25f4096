import CloudSession.Supplier.Network

/-! # Airspace of a network

The suppliers of a network with many callers each, all of whom share the clock, the faults met so
far and the latches. Nothing is settled here about what a fetch does while it is under way: it may
ask other suppliers, make them forget or set their latches, round circles and to any depth, as all
that is just more of what happens before it ends.
-/

namespace CloudSession

structure Airspace (α : Type) where
  clock : Float
  log : FaultLog := {}
  latches : Nat → Latch := fun _ => {}
  desks : Nat → Desk α := fun _ => {}

inductive Incident (α : Type) where
  | event (supplier : Nat) (event : Event α)
  /-- Others met faults or found out more about them. -/
  | faults (log : FaultLog)

namespace Airspace

variable {α : Type}

/-- What those at supplier `i` see. -/
def traffic (a : Airspace α) (m : Member) (i : Nat) : Traffic α :=
  { toDesk := a.desks i, clock := a.clock, log := a.log, latch := a.latches m.latch }

/-- What those at supplier `i` made of it. -/
def put (a : Airspace α) (m : Member) (i : Nat) (t : Traffic α) : Airspace α where
  clock := t.clock
  log := t.log
  latches := setAt a.latches m.latch t.latch
  desks := setAt a.desks i t.toDesk

def step (net : Network) (a : Airspace α) : Incident α → Airspace α
  | .event i event =>
    match net[i]? with
    | some m => a.put m i ((a.traffic m i).step m.manner event).2
    | none => a
  | .faults log => { a with log := log }

def run (net : Network) (a : Airspace α) (incidents : List (Incident α)) : Airspace α :=
  incidents.foldl (step net) a

end Airspace

end CloudSession
