import CloudSession.Http.Request
import CloudSession.Problem

/-! # Faults

A fault is what ends an operation early. Faults are kept in a log and known by their place in it,
so that two callers can be told of the very same fault, and a fault may name its cause and the
fault that was being handled when it arose.
-/

namespace CloudSession

inductive LineFault where
  | timeout
  | connectTimeout
  | readTimeout
  | connection
  | tls
  | proxy
  | brokenChunk
  | badStatus
  | undecodable
  | redirects
  | badUrl
  | consumed
  | cookieConflict
  | general
  deriving Repr, DecidableEq

inductive SettingsFault where
  | unparsable
  | missingFile
  | badValue
  | unknownOption
  | duplicateOption
  | unknownGroup
  | groupReference
  | circular
  deriving Repr, DecidableEq

inductive FaultKind where
  | problem (p : Problem)
  | line (l : LineFault)
  | settings (s : SettingsFault)
  | timeout
  | value
  | runtime
  | io
  | type
  | reset
  | unsupported
  | recursion
  | index
  | interrupt
  | attribute
  | lookup
  | key
  | unicode
  | overflow
  | missingModule
  | other
  deriving Repr, DecidableEq

namespace FaultKind

/-- The kind of a fault of the settings: following references round a circle never ends. -/
def ofSettings : SettingsFault → FaultKind
  | .circular => .recursion
  | fault => .settings fault

def isAuthorization (k : FaultKind) : Bool := k == .problem .authorization

def isConnection : FaultKind → Bool
  | .line l => match l with
    | .connection | .connectTimeout | .tls | .proxy => true
    | _ => false
  | _ => false

/-- Worth another attempt at a fetch: it took too long, or the line was cut. -/
def isTimeout : FaultKind → Bool
  | .timeout => true
  | .problem .sessionTimeout => true
  | .line .timeout => true
  | .line .readTimeout => true
  | k => k.isConnection

def isIo : FaultKind → Bool
  | .io | .timeout | .reset => true
  | .problem .sessionTimeout => true
  | .line l => l != .cookieConflict
  | _ => false

def isRuntime : FaultKind → Bool
  | .runtime | .unsupported | .recursion => true
  | .line .cookieConflict => true
  | _ => false

/-- A body that fails this way counts as unreadable. -/
def isReadFailure (k : FaultKind) : Bool := k.isIo || k.isRuntime

/-- A host whose look-up fails this way counts as unknown. -/
def isUnresolved (k : FaultKind) : Bool := k.isIo || k == .type || k == .unicode

/-- Not an order to stop at once. -/
def isFailure (k : FaultKind) : Bool := k != .interrupt

end FaultKind

abbrev FaultId := Nat

/-- What a fault tells of a response: its status and what it said, the command that failed and the
number of the response. -/
structure ResponseReport where
  status : Value
  content : Value
  command : Option Command := none
  response : Option Nat := none

/-- What a fault says on its own. -/
structure FaultHead where
  kind : FaultKind
  message : Option String := none
  report : Option ResponseReport := none

namespace FaultHead

/-- What a problem tells besides its details, when it tells of a response. -/
def asides : List String := ["command", "response"]

/-- The details that a message may name. -/
def details (p : Problem) (given : Fields Value) : Fields Value :=
  if p.tellsResponse then given.filter fun (name, _) => !asides.contains name else given

def ofProblem (p : Problem) (given : Fields Value) (message : Value := .null) : FaultHead where
  kind := .problem p
  message := some (p.text message (details p given))
  report :=
    if p.tellsResponse then
      some ⟨(given.get? "status").getD .null, (given.get? "content").getD .null, none, none⟩
    else none

end FaultHead

/-- A fault in the log: its head, its cause and the fault it arose from. -/
structure Fault extends FaultHead where
  cause : Option FaultId := none
  context : Option FaultId := none

/-- How a fault is to be made: its head, and the making of its cause and its context. -/
inductive FaultPlan where
  | fault (head : FaultHead) (cause context : Option FaultPlan)

namespace FaultPlan

def simple (head : FaultHead) : FaultPlan := .fault head none none

def ofKind (kind : FaultKind) : FaultPlan := simple { kind := kind }

instance : Inhabited FaultPlan := ⟨ofKind .other⟩

def kind : FaultPlan → FaultKind
  | .fault head _ _ => head.kind

end FaultPlan

/-- All faults so far; a fault is known by its place. -/
structure FaultLog where
  faults : Array Fault := #[]

namespace FaultLog

def get? (log : FaultLog) (i : FaultId) : Option Fault := log.faults[i]?

def size (log : FaultLog) : Nat := log.faults.size

def add (log : FaultLog) (fault : Fault) : FaultLog × FaultId :=
  (⟨log.faults.push fault⟩, log.size)

@[simp]
theorem size_add (log : FaultLog) (fault : Fault) : (log.add fault).1.size = log.size + 1 := by
  simp [add, size]

/-- A fault that was entered stands under its number. -/
@[simp]
theorem get?_add_self (log : FaultLog) (fault : Fault) :
    (log.add fault).1.get? (log.add fault).2 = some fault := by
  simp [add, get?, size]

/-- Entering a fault leaves those before it as they were. -/
theorem get?_add_of_lt (log : FaultLog) (fault : Fault) {i : FaultId} (known : i < log.size) :
    (log.add fault).1.get? i = log.get? i := by
  simp only [add, get?, size] at *
  rw [Array.getElem?_push]
  simp [Nat.ne_of_lt known]

def kind? (log : FaultLog) (i : FaultId) : Option FaultKind := (log.get? i).map (·.kind)

def is (log : FaultLog) (sort : FaultKind → Bool) (i : FaultId) : Bool :=
  (log.kind? i).any sort

def setCause (log : FaultLog) (i : FaultId) (cause : Option FaultId) : FaultLog :=
  ⟨log.faults.modify i fun f => { f with cause := cause }⟩

def setContext (log : FaultLog) (i : FaultId) (context : Option FaultId) : FaultLog :=
  ⟨log.faults.modify i fun f => { f with context := context }⟩

@[simp]
theorem size_setCause (log : FaultLog) (i : FaultId) (cause : Option FaultId) :
    (log.setCause i cause).size = log.size := by
  simp [setCause, size]

@[simp]
theorem size_setContext (log : FaultLog) (i : FaultId) (context : Option FaultId) :
    (log.setContext i context).size = log.size := by
  simp [setContext, size]

/-- A context link says nothing of what a fault is. -/
@[simp]
theorem kind?_setContext (log : FaultLog) (i j : FaultId) (context : Option FaultId) :
    (log.setContext i context).kind? j = log.kind? j := by
  simp only [setContext, kind?, get?, Array.getElem?_modify]
  split <;> simp [Option.map_map, Function.comp_def]

mutual

/-- Enter the fault of a plan after those it names. -/
def make (log : FaultLog) : FaultPlan → FaultLog × FaultId
  | .fault head cause context =>
    let (log, cause) := makeAny log cause
    let (log, context) := makeAny log context
    log.add { head with cause := cause, context := context }

def makeAny (log : FaultLog) : Option FaultPlan → FaultLog × Option FaultId
  | none => (log, none)
  | some plan =>
    let (log, i) := make log plan
    (log, some i)

end

theorem kind?_add_of_known {log : FaultLog} {i : FaultId} {kind : FaultKind}
    (known : log.kind? i = some kind) (fault : Fault) : (log.add fault).1.kind? i = some kind := by
  obtain ⟨own, here, -⟩ := Option.map_eq_some_iff.mp known
  have entered : i < log.size := (Array.getElem?_eq_some_iff.mp here).1
  rw [kind?, get?_add_of_lt log fault entered]
  exact known

mutual

/-- The kinds of the faults before stay known. -/
theorem kind?_make_of_known {log : FaultLog} {i : FaultId} {kind : FaultKind}
    (known : log.kind? i = some kind) : (plan : FaultPlan) →
      (log.make plan).1.kind? i = some kind
  | .fault head cause context => by
    have before := kind?_makeAny_of_known (kind?_makeAny_of_known known cause) context
    exact kind?_add_of_known before _

theorem kind?_makeAny_of_known {log : FaultLog} {i : FaultId} {kind : FaultKind}
    (known : log.kind? i = some kind) : (plan : Option FaultPlan) →
      (log.makeAny plan).1.kind? i = some kind
  | none => known
  | some plan => kind?_make_of_known known plan

end

/-- The fault of a plan is of the kind planned. -/
theorem kind?_make (log : FaultLog) (plan : FaultPlan) :
    (log.make plan).1.kind? (log.make plan).2 = some plan.kind := by
  obtain ⟨head, cause, context⟩ := plan
  simp only [make, kind?, get?_add_self, Option.map_some]
  rfl

/-- So whether it is of a sort is known from the plan. -/
theorem is_make (log : FaultLog) (plan : FaultPlan) (sort : FaultKind → Bool) :
    (log.make plan).1.is sort (log.make plan).2 = sort plan.kind := by
  rw [is, kind?_make, Option.any_some]

/-- Cut the context link of the chain from a fault that leads to `target`, within `fuel` links. -/
def cutContext (log : FaultLog) (target : FaultId) : (fuel : Nat) → FaultId → FaultLog
  | 0, _ => log
  | fuel + 1, i =>
    match (log.get? i).bind (·.context) with
    | none => log
    | some next =>
      if next = target then log.setContext i none else cutContext log target fuel next

/-- Note that `i` arose while `handled` was handled. A fault never arises from itself, and a chain
that would lead back to it is cut first. -/
def arise (log : FaultLog) (i handled : FaultId) : FaultLog :=
  if i = handled then log
  else (log.cutContext i log.size handled).setContext i (some handled)

end FaultLog

end CloudSession
