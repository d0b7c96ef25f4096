import CloudSession.Supplier.Cell
import CloudSession.Supplier.Latch
import CloudSession.Supplier.Verdict

/-! # Suppliers

A supplier remembers the result of a slow fetch, such as a login, for a while. A fetch that takes
too long is tried again a few times. Once the latch is set the supplier never fetches again.

Here a supplier has one caller at a time: a flight that is under way when a caller arrives belongs
to an outer call of the same caller and cannot land while he waits, so he gives up at once.
-/

namespace CloudSession

/-- A supplier of `α`, whose cell and latch are parts of the state `σ`. -/
structure Supplier (σ α : Type) where
  name : String
  /-- Seconds a value stays fresh; none where the settings give no number. -/
  ttl : Option Number
  maxAttempts : Int
  cell : Slot σ (Cell α)
  latch : Slot σ Latch
  cell_latch : ∀ l s, cell.read (latch.write l s) = cell.read s := by intros; rfl
  latch_cell : ∀ c s, latch.read (cell.write c s) = latch.read s := by intros; rfl

namespace Supplier

variable {σ α : Type}

/-- How many attempts follow the first one. -/
def spare (s : Supplier σ α) : Nat := (s.maxAttempts - 1).toNat

/-- End on the latched fault, if there is one. -/
def checkLatch (s : Supplier σ α) : Act σ Unit := do
  match (← s.latch.fetch).fault with
  | some i => throw i
  | none => pure ()

/-- Set the latch to `rejection`, then end on what it holds, while `fault` is handled. -/
def reject (s : Supplier σ α) (fault rejection : FaultId) : Act σ α := do
  s.latch.change fun l => (l.trySet rejection).2
  let held := (← s.latch.fetch).fault.getD rejection
  if held = fault then throw fault else Act.failWhile fault held

def isDue (deadline : Option Float) (now : Float) : Bool := deadline.any (decide <| · ≤ now)

/-- One attempt at a fetch after `count` others. After a timeout `retry` follows, when there is
one and the deadline has not come. -/
def fetchOnce (s : Supplier σ α) (fetch : Act σ α) (deadline : Option Float) (count : Nat)
    (retry : Option (Act σ α)) : Act σ α := do
  s.checkLatch
  match ← Act.attempt fetch with
  | .ok value => pure value
  | .error i =>
    match (← Act.log).verdict i with
    | .handOn => throw i
    | .rejected j => s.reject i j
    | .timedOut =>
      let due := isDue deadline (← Act.now)
      match retry.filter fun _ => !due with
      | some retry => retry
      | none => Act.failFrom (givenUp s.name (count + 1)) i

/-- Fetch after `count` attempts, with up to `left` attempts behind the next one. -/
def fetchWithin (s : Supplier σ α) (fetch : Act σ α) (deadline : Option Float) :
    (left count : Nat) → Act σ α
  | 0, count => s.fetchOnce fetch deadline count none
  | left + 1, count =>
    s.fetchOnce fetch deadline count (some (fetchWithin s fetch deadline left (count + 1)))

def lead (s : Supplier σ α) (fetch : Act σ α) (deadline : Option Float) : Act σ α := do
  let cell ← s.cell.fetch
  s.cell.store cell.launch
  let outcome ← Act.attempt (s.fetchWithin fetch deadline s.spare 0)
  let now ← Act.now
  s.cell.change (·.land cell.ticket now outcome.toOption)
  Act.settle outcome

/-- The time at which a budget of seconds is spent. -/
def deadline (timeout : Option Number) : Act σ (Option Float) := do
  match timeout with
  | none => pure none
  | some seconds =>
    match seconds.toFloat? with
    | some x => return some ((← Act.now) + x)
    | none => Act.failKind .overflow

/-- The remembered value, or a fetched one when there is none that is fresh. -/
def get (s : Supplier σ α) (fetch : Act σ α) (timeout : Option Number := none) : Act σ α := do
  s.checkLatch
  let deadline ← deadline timeout
  match (← s.cell.fetch).arrive s.ttl (← Act.now) with
  | .served value => pure value
  | .joins _ => Act.fail (givenUp s.name 0)
  | .leads => s.lead fetch deadline
  | .unjudged => Act.failKind .type

def invalidate (s : Supplier σ α) : Act σ Unit := s.cell.change Cell.invalidate

/-- Set the latch from outside; tells whether this call set it. -/
def trySet (s : Supplier σ α) (i : FaultId) : Act σ Bool := do
  let (first, latch) := (← s.latch.fetch).trySet i
  s.latch.store latch
  return first

end Supplier

end CloudSession
