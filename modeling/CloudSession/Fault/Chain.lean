import CloudSession.Fault

/-! # Chains of faults

From a fault the chain goes on to its cause, and where it has none to the fault it arose from. A
rejected credential may hide anywhere on this chain. The links may run in a circle; as many steps
as there are faults reach every fault of the chain.
-/

namespace CloudSession.FaultLog

def next (log : FaultLog) (i : FaultId) : Option FaultId :=
  (log.get? i).bind fun f => f.cause <|> f.context

/-- The first rejected credential among the first `steps` faults of the chain from `i`. -/
def rejectionWithin (log : FaultLog) : (steps : Nat) → FaultId → Option FaultId
  | 0, _ => none
  | steps + 1, i =>
    if log.is FaultKind.isAuthorization i then some i
    else match log.next i with
      | some j => rejectionWithin log steps j
      | none => none

/-- The first rejected credential on the chain from `i`. -/
def rejection? (log : FaultLog) (i : FaultId) : Option FaultId := log.rejectionWithin log.size i

end CloudSession.FaultLog
