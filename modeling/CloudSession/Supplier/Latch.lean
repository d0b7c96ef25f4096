import CloudSession.World

/-! # Latch of a credential

Keeps the first fault by which a provider rejected a credential. Every cache over that credential
looks at the same latch, which is never opened again.
-/

namespace CloudSession

structure Latch where
  fault : Option FaultId := none
  deriving Repr, DecidableEq

namespace Latch

def isSet (latch : Latch) : Bool := latch.fault.isSome

/-- Set the latch unless it is set; tells whether this call set it. -/
def trySet (latch : Latch) (i : FaultId) : Bool × Latch :=
  match latch.fault with
  | none => (true, ⟨some i⟩)
  | some _ => (false, latch)

/-- After an attempt to set a latch it holds the fault it held, or else the new one. -/
@[simp]
theorem fault_trySet (latch : Latch) (i : FaultId) :
    (latch.trySet i).2.fault = some (latch.fault.getD i) := by
  unfold trySet
  split <;> simp_all

end Latch

end CloudSession
