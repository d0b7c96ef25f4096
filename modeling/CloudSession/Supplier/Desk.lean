import CloudSession.Supplier.Chronicle

/-! # Desk of a supplier

Where callers of one supplier are attended to. A caller is at a stage of his call, and each thing
that can happen to him or to the cell is an operation of the desk, which enters it in the chronicle.
-/

namespace CloudSession

inductive Stage (α : Type) where
  /-- Past the latch, and about to look at the cell. -/
  | entering (deadline : Option Float)
  /-- Leading a flight, and about to look at the latch before an attempt that follows `count`
  others. -/
  | attempting (ticket : Ticket) (count : Nat) (deadline : Option Float)
  /-- Leading a flight, past the latch once more, and about to call the fetch. -/
  | calling (ticket : Ticket) (count : Nat) (deadline : Option Float)
  /-- Leading a flight, inside call number `call` of the fetch, after `count` attempts. -/
  | fetching (call : Nat) (ticket : Ticket) (count : Nat) (deadline : Option Float)
  /-- Leading a flight that made its last attempt, of which the cell does not know. -/
  | landing (ticket : Ticket) (outcome : Except FaultId α)
  | waiting (flight : FlightId) (deadline : Option Float)
  | done (outcome : Except FaultId α)

def Stage.ticket? {α : Type} : Stage α → Option Ticket
  | .attempting ticket _ _ | .calling ticket _ _ | .fetching _ ticket _ _ | .landing ticket _ =>
    some ticket
  | .entering _ | .waiting _ _ | .done _ => none

structure Caller (α : Type) where
  name : String
  stage : Stage α

structure Desk (α : Type) where
  cell : Cell α := {}
  callers : List (Caller α) := []
  /-- What the flights that landed ended with, for those who wait for them. -/
  endings : List (FlightId × Except FaultId α) := []
  calls : Nat := 0
  chronicle : Chronicle α := []

namespace Desk

variable {α : Type}

def stage? (d : Desk α) (caller : Nat) : Option (Stage α) := d.callers[caller]?.map (·.stage)

def ending? (d : Desk α) (flight : FlightId) : Option (Except FaultId α) :=
  (d.endings.find? (·.1 = flight)).map (·.2)

def welcome (d : Desk α) (name : String) (stage : Stage α) : Desk α :=
  { d with callers := d.callers ++ [⟨name, stage⟩] }

def setStage (d : Desk α) (caller : Nat) (stage : Stage α) : Desk α :=
  { d with callers := d.callers.modify caller fun c => { c with stage := stage } }

def record (d : Desk α) (happening : Happening α) : Desk α :=
  { d with chronicle := happening :: d.chronicle }

def serve (d : Desk α) (caller : Nat) (value : α) (now : Float) : Desk α :=
  (d.setStage caller (.done (.ok value))).record (.served caller value now)

def join (d : Desk α) (caller : Nat) (flight : FlightId) (deadline : Option Float) : Desk α :=
  (d.setStage caller (.waiting flight deadline)).record (.joined caller flight)

def launch (d : Desk α) (caller : Nat) (deadline : Option Float) : Desk α :=
  ({ d with cell := d.cell.launch }.setStage caller
    (.attempting d.cell.ticket 0 deadline)).record (.launched caller d.cell.launched)

def callFetch (d : Desk α) (caller : Nat) (ticket : Ticket) (count : Nat)
    (deadline : Option Float) : Desk α :=
  ({ d with calls := d.calls + 1 }.setStage caller
    (.fetching d.calls ticket count deadline)).record (.called ticket.flight d.calls)

def touchDown (d : Desk α) (caller : Nat) (ticket : Ticket) (now : Float)
    (outcome : Except FaultId α) : Desk α :=
  let cell := d.cell.land ticket now outcome.toOption
  let endings := (ticket.flight, outcome) :: d.endings
  ({ d with cell := cell, endings := endings }.setStage caller (.done outcome)).record
    (.landed ticket.flight outcome now)

/-- Let a caller stop waiting, with a fault of his own. -/
def giveUp (d : Desk α) (caller : Nat) (fault : FaultId) : Desk α :=
  (d.setStage caller (.done (.error fault))).record (.gaveUp caller)

def forget (d : Desk α) : Desk α :=
  { d with cell := d.cell.invalidate }.record .forgotten

@[simp]
theorem length_callers_setStage (d : Desk α) (i : Nat) (stage : Stage α) :
    (d.setStage i stage).callers.length = d.callers.length := by
  simp [setStage]

/-- The stage a caller was at before does not matter once he calls the fetch. -/
theorem callFetch_setStage (d : Desk α) (i : Nat) (stage : Stage α) (ticket : Ticket)
    (count : Nat) (deadline : Option Float) :
    (d.setStage i stage).callFetch i ticket count deadline =
      d.callFetch i ticket count deadline := by
  simp [callFetch, setStage, record, List.modify_modify_eq, Function.comp_def]

theorem lt_of_stage? {d : Desk α} {i : Nat} {stage : Stage α} (at_stage : d.stage? i = some stage) :
    i < d.callers.length := by
  obtain ⟨caller, here, -⟩ := Option.map_eq_some_iff.mp at_stage
  exact (List.getElem?_eq_some_iff.mp here).1

theorem stage?_eq_none {d : Desk α} {i : Nat} (beyond : d.callers.length ≤ i) :
    d.stage? i = none := by
  rw [stage?, List.getElem?_eq_none beyond, Option.map_none]

/-- Only the flight that lands ends. -/
theorem ending?_touchDown (d : Desk α) (i : Nat) (ticket : Ticket) (now : Float)
    (outcome : Except FaultId α) (flight : FlightId) :
    (d.touchDown i ticket now outcome).ending? flight =
      if ticket.flight = flight then some outcome else d.ending? flight := by
  by_cases own : ticket.flight = flight <;>
    simp [ending?, touchDown, setStage, record, own]

/-- Nobody but the caller at hand moves on. -/
theorem stage?_setStage {d : Desk α} {i : Nat} {before : Stage α}
    (at_stage : d.stage? i = some before) (after : Stage α) (j : Nat) :
    (d.setStage i after).stage? j = if j = i then some after else d.stage? j := by
  obtain ⟨caller, here, -⟩ := Option.map_eq_some_iff.mp at_stage
  by_cases same : j = i
  · subst same
    simp [stage?, setStage, here]
  · simp [stage?, setStage, same, Ne.symm same]

theorem stage?_setStage_self {d : Desk α} {i : Nat} {before : Stage α}
    (at_stage : d.stage? i = some before) (after : Stage α) :
    (d.setStage i after).stage? i = some after := by
  rw [stage?_setStage at_stage, if_pos rfl]

theorem stage?_serve {d : Desk α} {i : Nat} {before : Stage α}
    (at_stage : d.stage? i = some before) (value : α) (now : Float) :
    (d.serve i value now).stage? i = some (.done (.ok value)) :=
  stage?_setStage_self at_stage _

theorem stage?_join {d : Desk α} {i : Nat} {before : Stage α}
    (at_stage : d.stage? i = some before) (flight : FlightId) (deadline : Option Float) :
    (d.join i flight deadline).stage? i = some (.waiting flight deadline) :=
  stage?_setStage_self at_stage _

theorem stage?_launch {d : Desk α} {i : Nat} {before : Stage α}
    (at_stage : d.stage? i = some before) (deadline : Option Float) :
    (d.launch i deadline).stage? i = some (.attempting d.cell.ticket 0 deadline) :=
  stage?_setStage_self at_stage _

theorem stage?_callFetch {d : Desk α} {i : Nat} {before : Stage α}
    (at_stage : d.stage? i = some before) (ticket : Ticket) (count : Nat)
    (deadline : Option Float) :
    (d.callFetch i ticket count deadline).stage? i =
      some (.fetching d.calls ticket count deadline) :=
  stage?_setStage_self at_stage _

/-- Whoever comes is the last one. -/
theorem stage?_welcome (d : Desk α) (name : String) (stage : Stage α) (j : Nat) :
    (d.welcome name stage).stage? j =
      if j = d.callers.length then some stage else d.stage? j := by
  by_cases last : j = d.callers.length
  · simp [stage?, welcome, last]
  · by_cases known : j < d.callers.length
    · simp [stage?, welcome, last, List.getElem?_append_left known]
    · have beyond : d.callers.length + 1 ≤ j := by omega
      simp [stage?, welcome, last, List.getElem?_append_right (Nat.le_of_succ_le beyond),
        List.getElem?_eq_none (Nat.le_of_not_lt known)]
      omega

end Desk

end CloudSession
