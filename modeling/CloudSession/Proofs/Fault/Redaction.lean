import CloudSession.Http.ErrorStyle
import CloudSession.Http.Retry
import CloudSession.Supplier.Verdict

/-! # Faults without what headers hold

A fault may carry the request that failed, with all its headers. What is made of a fault, and what
is said of a request, depends on the names of these headers at most, and never on what they hold.
-/

namespace CloudSession

def Headers.redacted (headers : Headers) : Headers := headers.map fun (name, _) => (name, .null)

def Request.redacted (r : Request) : Request := { r with headers := r.headers.redacted }

def Command.redacted (c : Command) : Command :=
  { c with asked := c.asked.redacted, current := c.current.redacted }

def ResponseReport.redacted (r : ResponseReport) : ResponseReport :=
  { r with command := r.command.map Command.redacted }

def FaultHead.redacted (head : FaultHead) : FaultHead :=
  { head with report := head.report.map ResponseReport.redacted }

def Fault.redacted (fault : Fault) : Fault :=
  { fault with toFaultHead := fault.toFaultHead.redacted }

def FaultLog.redacted (log : FaultLog) : FaultLog := ⟨log.faults.map Fault.redacted⟩

/-! ## Requests -/

theorem Headers.seek?_redacted (headers : Headers) (name : String) :
    headers.redacted.seek? name = headers.seek? name := by
  induction headers with
  | nil => rfl
  | cons head rest ih =>
    obtain ⟨key, value⟩ := head
    cases key with
    | text own =>
      show (if Text.lower own == name then some true else Headers.seek? name (redacted rest)) =
        if Text.lower own == name then some true else Headers.seek? name rest
      rw [ih]
    | _ => rfl

theorem Headers.has?_redacted (headers : Headers) (name : Value) :
    headers.redacted.has? name = headers.has? name := by
  cases headers with
  | nil => rfl
  | cons head rest =>
    cases name with
    | text name => exact seek?_redacted (head :: rest) (Text.lower name)
    | _ => rfl

theorem Renewal.isLogin?_redacted (renewal : Renewal) (request : Request) :
    renewal.isLogin? request.redacted = renewal.isLogin? request := by
  simp only [isLogin?, Request.redacted, Headers.has?_redacted]

theorem Command.redacted_failed (c : Command) : c.failed.redacted = c.redacted.failed := rfl

/-- The fault that a response stands for quotes no header. -/
theorem ErrorStyle.headOf_redacted (command : Command) (response : ResponseId) (status : Int)
    (message : Option String) : (headOf command.redacted response status message).redacted =
      (headOf command response status message).redacted := by
  have again (c : Command) : c.redacted.redacted = c.redacted := by
    simp [Command.redacted, Request.redacted, Headers.redacted, Function.comp_def]
  unfold headOf
  split
  · rfl
  · split
    · simp only [FaultHead.redacted, Option.map_some, ResponseReport.redacted, again]
      rfl
    · split
      · rfl
      · simp only [FaultHead.redacted, Option.map_some, ResponseReport.redacted, again]
        rfl

/-! ## Logs -/

namespace FaultLog

variable (log : FaultLog)

@[simp]
theorem size_redacted : log.redacted.size = log.size := by
  simp [redacted, size]

theorem get?_redacted (i : FaultId) : log.redacted.get? i = (log.get? i).map Fault.redacted := by
  simp [redacted, get?]

@[simp]
theorem kind?_redacted (i : FaultId) : log.redacted.kind? i = log.kind? i := by
  rw [kind?, get?_redacted, Option.map_map]
  rfl

@[simp]
theorem is_redacted (sort : FaultKind → Bool) (i : FaultId) :
    log.redacted.is sort i = log.is sort i := by
  rw [is, kind?_redacted, is]

@[simp]
theorem next_redacted (i : FaultId) : log.redacted.next i = log.next i := by
  rw [next, get?_redacted, Option.bind_map]
  rfl

@[simp]
theorem rejectionWithin_redacted (steps : Nat) (i : FaultId) :
    log.redacted.rejectionWithin steps i = log.rejectionWithin steps i := by
  induction steps generalizing i with
  | zero => rfl
  | succ steps ih => simp only [rejectionWithin, is_redacted, next_redacted, ih]

@[simp]
theorem verdict_redacted (i : FaultId) : log.redacted.verdict i = log.verdict i := by
  simp only [verdict, rejection?, is_redacted, rejectionWithin_redacted, size_redacted]

theorem redacted_add (fault : Fault) :
    (log.add fault).1.redacted = (log.redacted.add fault.redacted).1 := by
  simp [redacted, add]

theorem redacted_setContext (i : FaultId) (context : Option FaultId) :
    (log.setContext i context).redacted = log.redacted.setContext i context := by
  simp only [redacted, setContext, FaultLog.mk.injEq]
  apply Array.ext_getElem?
  intro j
  simp only [Array.getElem?_map, Array.getElem?_modify]
  split
  · simp only [Option.map_map]
    rfl
  · rfl

theorem redacted_cutContext (target : FaultId) (fuel : Nat) (i : FaultId) :
    (log.cutContext target fuel i).redacted = log.redacted.cutContext target fuel i := by
  induction fuel generalizing i with
  | zero => rfl
  | succ fuel ih =>
    have same : (log.redacted.get? i).bind (·.context) = (log.get? i).bind (·.context) := by
      rw [get?_redacted, Option.bind_map]
      rfl
    simp only [cutContext, same]
    split
    · rfl
    · split
      · exact redacted_setContext log i none
      · exact ih _

theorem redacted_arise (i handled : FaultId) :
    (log.arise i handled).redacted = log.redacted.arise i handled := by
  unfold arise
  split
  · rfl
  · rw [redacted_setContext, redacted_cutContext, size_redacted]

variable {log} {log' : FaultLog}

theorem size_eq_of_redacted (same : log.redacted = log'.redacted) : log.size = log'.size := by
  rw [← size_redacted, same, size_redacted]

theorem redacted_add_eq (same : log.redacted = log'.redacted) {fault fault' : Fault}
    (alike : fault.redacted = fault'.redacted) :
    (log.add fault).2 = (log'.add fault').2 ∧
      (log.add fault).1.redacted = (log'.add fault').1.redacted := by
  rw [redacted_add, redacted_add, same, alike]
  exact ⟨size_eq_of_redacted same, rfl⟩

mutual

/-- A plan is entered in the same places of two logs that differ in what headers hold. -/
theorem redacted_make_eq {log log' : FaultLog} (same : log.redacted = log'.redacted) :
    (plan : FaultPlan) → (log.make plan).2 = (log'.make plan).2 ∧
      (log.make plan).1.redacted = (log'.make plan).1.redacted
  | .fault head cause context => by
    obtain ⟨cause_same, between⟩ := redacted_makeAny_eq same cause
    obtain ⟨context_same, later⟩ := redacted_makeAny_eq between context
    simp only [make]
    apply redacted_add_eq later
    rw [cause_same, context_same]

theorem redacted_makeAny_eq {log log' : FaultLog} (same : log.redacted = log'.redacted) :
    (plan : Option FaultPlan) → (log.makeAny plan).2 = (log'.makeAny plan).2 ∧
      (log.makeAny plan).1.redacted = (log'.makeAny plan).1.redacted
  | none => ⟨rfl, same⟩
  | some plan => by
    obtain ⟨made, later⟩ := redacted_make_eq same plan
    simp only [makeAny]
    exact ⟨congrArg some made, later⟩

end

end FaultLog

end CloudSession
