import CloudSession.Fault.Chain

/-! # Verdict on a failed fetch

What follows when an attempt at a fetch ends with a fault.
-/

namespace CloudSession

inductive Verdict where
  | handOn
  | timedOut
  /-- The credential is rejected, by the named fault. -/
  | rejected (rejection : FaultId)
  deriving Repr, DecidableEq

/-- The verdict on a fault. A cache asked by the fetch has spent attempts of its own, so its
report is handed on, and so is an order to stop. -/
def FaultLog.verdict (log : FaultLog) (i : FaultId) : Verdict :=
  if log.is (· == .problem .sessionTimeout) i then .handOn
  else if log.is FaultKind.isTimeout i then .timedOut
  else if log.is FaultKind.isFailure i then
    match log.rejection? i with
    | some j => .rejected j
    | none => .handOn
  else .handOn

/-- The report of a cache that gave up. -/
def givenUp (name : String) (attempts : Nat) : FaultHead :=
  .ofProblem .sessionTimeout [("name", .text name), ("attempts", .int attempts)]

end CloudSession
