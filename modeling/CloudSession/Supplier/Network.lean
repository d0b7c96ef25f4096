import CloudSession.Supplier.Traffic
import CloudSession.Value

/-! # Networks of suppliers

Suppliers whose fetches ask other suppliers. Latches are shared in any pattern, and what a fetch
does before it ends is a list of actions. A fetch that asks round a circle meets its own flight
and gives up, so only forgetting, which a script does a bounded number of times, lets the nesting
go deeper than there are suppliers.
-/

namespace CloudSession

inductive Action where
  | get (supplier : Nat) (timeout : Option Number)
  | invalidate (supplier : Nat)
  | pass (seconds : Float)
  | setClock (time : Float)
  | trySet (supplier : Nat) (plan : FaultPlan)

/-- What one call of a fetch does, and how it ends. -/
structure Turn where
  during : List Action := []
  landing : Landing Value

/-- What a fetch makes of a fault of the supplier it asks. -/
inductive Wrapping where
  /-- Names the fault as the cause of its own. -/
  | explains (plan : FaultPlan)
  /-- Fails on its own while the fault is handled. -/
  | follows (plan : FaultPlan)

inductive Source where
  /-- Call by call from a script. -/
  | script
  | supplier (index : Nat) (wrapping : Option Wrapping)

structure Member where
  manner : Manner
  latch : Nat
  source : Source

/-- A call of the fetch of a supplier, and what the latch of that supplier held then. -/
structure Takeoff where
  supplier : Nat
  latched : Option FaultId
  deriving Repr, DecidableEq

/-- What the suppliers of a network keep. -/
structure Pool where
  cells : Nat → Cell Value := fun _ => {}
  latches : Nat → Latch := fun _ => {}
  scripts : Nat → List Turn := fun _ => []
  /-- Every call of a fetch, the latest first. -/
  takeoffs : List Takeoff := []
  /-- What suppliers answered to those who asked them by an action. -/
  heard : List (Except FaultId Value) := []

/-- One place of a store changed. -/
def setAt {α : Type} (store : Nat → α) (i : Nat) (a : α) : Nat → α :=
  fun j => if j = i then a else store j

@[simp]
theorem setAt_self {α : Type} (store : Nat → α) (i : Nat) (a : α) : setAt store i a i = a :=
  if_pos rfl

@[simp]
theorem setAt_of_ne {α : Type} {i j : Nat} (store : Nat → α) (other : j ≠ i) (a : α) :
    setAt store i a j = store j :=
  if_neg other

namespace Pool

def cell (i : Nat) : Slot Pool (Cell Value) where
  read p := p.cells i
  write c p := { p with cells := setAt p.cells i c }
  read_write := by intros; simp [setAt]
  write_read := by
    intro p
    have : setAt p.cells i (p.cells i) = p.cells := by
      funext j
      by_cases h : j = i <;> simp [setAt, h]
    simp [this]
  write_write := by
    intro a b p
    have : setAt (setAt p.cells i b) i a = setAt p.cells i a := by
      funext j
      by_cases h : j = i <;> simp [setAt, h]
    simp [this]

def latch (i : Nat) : Slot Pool Latch where
  read p := p.latches i
  write l p := { p with latches := setAt p.latches i l }
  read_write := by intros; simp [setAt]
  write_read := by
    intro p
    have : setAt p.latches i (p.latches i) = p.latches := by
      funext j
      by_cases h : j = i <;> simp [setAt, h]
    simp [this]
  write_write := by
    intro a b p
    have : setAt (setAt p.latches i b) i a = setAt p.latches i a := by
      funext j
      by_cases h : j = i <;> simp [setAt, h]
    simp [this]

def calls (p : Pool) (i : Nat) : Nat := p.takeoffs.countP (·.supplier == i)

def takeTurn (i : Nat) : Act Pool (Option Turn) := do
  match (← Act.own).scripts i with
  | [] => return none
  | turn :: rest =>
    Act.modifyOwn fun p => { p with scripts := setAt p.scripts i rest }
    return some turn

def takeOff (i latch : Nat) : Act Pool Unit :=
  Act.modifyOwn fun p => { p with takeoffs := ⟨i, (p.latches latch).fault⟩ :: p.takeoffs }

def hear (outcome : Except FaultId Value) : Act Pool Unit :=
  Act.modifyOwn fun p => { p with heard := p.heard ++ [outcome] }

end Pool

abbrev Network := List Member

namespace Member

def supplier (m : Member) (i : Nat) : Supplier Pool Value where
  name := m.manner.name
  ttl := m.manner.ttl
  maxAttempts := m.manner.maxAttempts
  cell := Pool.cell i
  latch := Pool.latch m.latch

end Member

namespace Network

/-- How a supplier is asked. -/
abbrev Asking := Nat → Option Number → Act Pool Value

def invalidate (net : Network) (i : Nat) : Act Pool Unit :=
  match net[i]? with
  | some m => (m.supplier i).invalidate
  | none => pure ()

/-- Set the latch of a supplier from outside; tells whether this call set it. -/
def trySet (net : Network) (i : Nat) (plan : FaultPlan) : Act Pool Bool := do
  let fault ← Act.plan plan
  match net[i]? with
  | some m => (m.supplier i).trySet fault
  | none => return false

/-- Take an action; what a supplier answers is heard. -/
def act (net : Network) (ask : Asking) : Action → Act Pool Told
  | .get i timeout => do
    Pool.hear (← Act.attempt (ask i timeout))
    return .nothing
  | .invalidate i => do
    net.invalidate i
    return .nothing
  | .pass seconds => do
    Act.pass seconds
    return .nothing
  | .setClock time => do
    modify fun w => { w with clock := time }
    return .nothing
  | .trySet i plan => return .latched (← net.trySet i plan)

def acts (net : Network) (ask : Asking) (actions : List Action) : Act Pool Unit :=
  actions.forM fun action => discard (net.act ask action)

/-- Wrap a fault of the supplier that was asked; an order to stop passes unwrapped. -/
def wrapped (wrapping : Option Wrapping) (outcome : Except FaultId Value) : Act Pool Value := do
  match outcome, wrapping with
  | .ok v, _ => pure v
  | .error i, none => throw i
  | .error i, some w =>
    if ← Act.is FaultKind.isFailure i then
      match w with
      | .explains plan => do
        let j ← Act.plan plan
        Act.modifyLog (·.setCause j (some i))
        Act.failWhile i j
      | .follows plan => do Act.failWhile i (← Act.plan plan)
    else throw i

/-- What a call of the fetch of supplier `i` does. -/
def fetch (net : Network) (ask : Asking) (m : Member) (i : Nat) : Act Pool Value := do
  Pool.takeOff i m.latch
  match m.source with
  | .supplier j wrapping => wrapped wrapping (← Act.attempt (ask j none))
  | .script =>
    match ← Pool.takeTurn i with
    | none => Act.fail { kind := .runtime, message := some "script exhausted" }
    | some turn =>
      net.acts ask turn.during
      match turn.landing with
      | .value v => pure v
      | .fault plan => Act.failPlan plan
      | .known fault => throw fault

/-- Ask supplier `i`, in at most `depth` nested calls. -/
def get (net : Network) : (depth : Nat) → Asking
  | 0, _, _ => Act.failKind .recursion
  | depth + 1, i, timeout =>
    match net[i]? with
    | some m => (m.supplier i).get (net.fetch (get net depth) m i) timeout
    | none => Act.failKind .index

/-- As many nested calls as scripts allow: one for each supplier, and one more for each time a
script can make a supplier forget its flight. -/
def depth (net : Network) (scripts : Nat → List Turn) : Nat :=
  let actions (count : Nat) (i : Nat) : Nat :=
    (scripts i).foldl (fun count turn => count + turn.during.length) count
  (List.range net.length).foldl actions (net.length + 2)

/-- Take an action from outside. -/
def perform (net : Network) (depth : Nat) (action : Action) : Act Pool Told :=
  net.act (net.get depth) action

end Network

end CloudSession
