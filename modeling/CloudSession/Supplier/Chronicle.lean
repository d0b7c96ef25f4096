import CloudSession.Fault
import CloudSession.Supplier.Cell

/-! # Chronicle of a supplier

What happened at a supplier, the latest first. It tells of callers and flights only: what the cell
keeps of them, its count of generations and its slot for a flight are not spoken of. The questions
at the end read off it what a cache with a perfect memory would know.
-/

namespace CloudSession

inductive Happening (α : Type) where
  /-- A caller found nothing fresh and started a flight. -/
  | launched (caller : Nat) (flight : FlightId)
  /-- A caller found nothing fresh and waits for a flight. -/
  | joined (caller : Nat) (flight : FlightId)
  /-- A caller was given a remembered value. -/
  | served (caller : Nat) (value : α) (now : Float)
  /-- The leader of a flight called the fetch, which is call number `call`. -/
  | called (flight : FlightId) (call : Nat)
  | landed (flight : FlightId) (outcome : Except FaultId α) (time : Float)
  /-- A caller stopped waiting for his flight. -/
  | gaveUp (caller : Nat)
  | forgotten

abbrev Chronicle (α : Type) := List (Happening α)

/-- A landing that brought a value. -/
structure Delivery (α : Type) where
  flight : FlightId
  value : α
  time : Float

namespace Happening

variable {α : Type}

/-- The caller who is told of by name. -/
def caller? : Happening α → Option Nat
  | .launched i _ | .joined i _ | .served i _ _ | .gaveUp i => some i
  | .called _ _ | .landed _ _ _ | .forgotten => none

def isCall : Happening α → Bool
  | .called _ _ => true
  | _ => false

end Happening

namespace Chronicle

variable {α : Type}

/-- How often the supplier was told to forget. -/
def generation : Chronicle α → Nat
  | [] => 0
  | .forgotten :: c => generation c + 1
  | _ :: c => generation c

/-- The generation a flight started in, none when it did not start. -/
def generationOf (flight : FlightId) : Chronicle α → Option Nat
  | [] => none
  | .launched _ f :: c => if f = flight then some (generation c) else generationOf flight c
  | _ :: c => generationOf flight c

/-- How a flight ended, none when it did not. -/
def outcomeOf (flight : FlightId) : Chronicle α → Option (Except FaultId α)
  | [] => none
  | .landed f outcome _ :: c => if f = flight then some outcome else outcomeOf flight c
  | _ :: c => outcomeOf flight c

/-- A flight that started and did not end. -/
def InProgress (c : Chronicle α) (flight : FlightId) : Prop :=
  c.generationOf flight ≠ none ∧ c.outcomeOf flight = none

/-- A flight such that the supplier was not told to forget since it started. -/
def IsCurrent (c : Chronicle α) (flight : FlightId) : Prop :=
  c.generationOf flight = some c.generation

/-- The latest landing that brought a value, of a flight that was current when it landed, unless
the supplier was told to forget afterwards. -/
def kept : Chronicle α → Option (Delivery α)
  | [] => none
  | .forgotten :: _ => none
  | .landed flight (.ok value) time :: c =>
    if generationOf flight c = some (generation c) then some ⟨flight, value, time⟩ else kept c
  | _ :: c => kept c

/-- The landing to remember is fresh at `now`. -/
structure Offers (c : Chronicle α) (seconds : Number) (now : Float) (delivery : Delivery α) :
    Prop where
  kept : c.kept = some delivery
  fresh : Cell.isFresh seconds now delivery.time

def calls (c : Chronicle α) : Nat := c.countP Happening.isCall

/-- How a caller came by a value that a flight brought. -/
inductive Brought (c : Chronicle α) (caller : Nat) (value : α) (flight : FlightId) : Prop where
  | led : .launched caller flight ∈ c → c.outcomeOf flight = some (.ok value) →
    Brought c caller value flight
  | awaited : .joined caller flight ∈ c → c.outcomeOf flight = some (.ok value) →
    Brought c caller value flight
  /-- He was served when the landing of the flight was the one to remember. -/
  | remembered (later earlier : Chronicle α) (now time : Float) :
    c = later ++ .served caller value now :: earlier →
    kept earlier = some ⟨flight, value, time⟩ → Brought c caller value flight

end Chronicle

end CloudSession
