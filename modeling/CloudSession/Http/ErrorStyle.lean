import CloudSession.Http.Wire
import CloudSession.Text.Blank
import CloudSession.Text.Find

/-! # Faults of a failed response

A response that is not worth another attempt becomes a fault: its status chooses the problem, and
what the provider said becomes the content. A vCloud provider may say it in a header, and some of
its sayings mean that a resource is busy or taken.
-/

namespace CloudSession

inductive ErrorStyle where
  | plain
  | vcloud
  deriving Repr, DecidableEq

namespace ErrorStyle

/-- The header in which a vCloud provider puts its message. -/
def messageHeader : String := "x-elastic-error"

/-- Sayings of a vCloud provider that mean a resource is busy or taken. -/
def busySayings : List String :=
  ["because there is a pending task running", "already exists", "is not in a valid state"]

def isBusy (message : String) : Bool :=
  busySayings.any fun saying => Text.isWithin saying message

variable {σ α : Type} [Wired σ]

/-- What the body says; none when it is empty or cannot be read. -/
def bodyMessage (response : ResponseId) : Act σ (Option String) := do
  return ((← Wire.readText response).filter (!·.isEmpty)).map Text.strip

def message (style : ErrorStyle) (response : ResponseId) : Act σ (Option String) := do
  match style with
  | .plain => bodyMessage response
  | .vcloud =>
    match ((← Wire.response response).header? messageHeader).filter (!·.isEmpty) with
    | some s => return some s
    | none => bodyMessage response

/-- The reason that names a request and what was said about it. -/
def reason (request : Request) (status : Int) (message : Option String) : String :=
  request.title ++ " -> " ++ (message.filter (!·.isEmpty)).getD (Number.intText status)

/-- The fault that a status and a message stand for. -/
def headOf (command : Command) (response : ResponseId) (status : Int)
    (message : Option String) : FaultHead :=
  let because : Fields Value := [("reason", .text (reason command.current status message))]
  let details : Fields Value :=
    [("request", .text command.current.title), ("status", .int status),
      ("content", .ofOption message)]
  let telling (p : Problem) : FaultHead :=
    { FaultHead.ofProblem p details with
      report := some ⟨.int status, .ofOption message, some command, some response⟩ }
  if status = 401 || status = 403 then .ofProblem .authorization because
  else if status = 404 then telling .resourceNotFound
  else if status = 409 || status = 412 then .ofProblem .illegalState because
  else telling .httpResponse

/-- End on the fault that a response stands for by its status. -/
def failByStatus (style : ErrorStyle) (command : Command) (response : ResponseId) : Act σ α := do
  let message ← style.message response
  Act.fail (headOf command response (← Wire.response response).status message)

/-- End on the fault that a failed response stands for. -/
def fail (style : ErrorStyle) (command : Command) (response : ResponseId) : Act σ α := do
  match style with
  | .plain => style.failByStatus command response
  | .vcloud =>
    let message ← style.message response
    let status := (← Wire.response response).status
    match message with
    | some m =>
      if (status = 400 || status = 500) && isBusy m then
        Act.fail (.ofProblem .illegalState [("reason", .text m)])
      else style.failByStatus command response
    | none => style.failByStatus command response

end ErrorStyle

end CloudSession
