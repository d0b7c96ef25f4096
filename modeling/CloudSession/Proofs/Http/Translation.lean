import CloudSession.Proofs.Http.Decision
import CloudSession.Proofs.Http.Message
import CloudSession.Proofs.Problem

/-! # Faults of failed responses

Every failed response becomes a fault. Its status chooses the sort of fault, and what the provider
has to say is quoted. The vCloud style makes one exception, for resources that are busy or taken,
and the message that decides on it is the one that is quoted.
-/

namespace CloudSession

open Act

variable {σ α : Type} [Wired σ] {w : World σ} {i : ResponseId} {r : Response}

namespace ErrorStyle

/-- A fault is the one that a status and a message stand for by the rules all providers share. -/
structure Reports (command : Command) (response : ResponseId) (status : Int)
    (message : Option String) (head : FaultHead) : Prop where
  rejected : status = 401 ∨ status = 403 → head =
    ⟨.problem .authorization,
      some ("Not authorized: " ++ reason command.current status message), none⟩
  absent : status = 404 → head =
    ⟨.problem .resourceNotFound,
      some ("resource not found for request " ++ command.current.title ++ ": " ++
        message.getD "None"),
      some ⟨.int status, .ofOption message, some command, some response⟩⟩
  conflicting : status = 409 ∨ status = 412 → head =
    ⟨.problem .illegalState,
      some ("Illegal state: " ++ reason command.current status message), none⟩
  failed : status ∉ [401, 403, 404, 409, 412] → head =
    ⟨.problem .httpResponse,
      some ("request " ++ command.current.title ++ " failed with code " ++
        Number.intText status ++ ", content: " ++ message.getD "None"),
      some ⟨.int status, .ofOption message, some command, some response⟩⟩

theorem display_ofOption (message : Option String) :
    (Value.ofOption message).display = message.getD "None" := by
  cases message <;> rfl

theorem ofProblem_authorization (because : String) :
    FaultHead.ofProblem .authorization [("reason", .text because)] =
      ⟨.problem .authorization, some ("Not authorized: " ++ because), none⟩ := by
  rw [← Problem.text_authorization]
  rfl

theorem ofProblem_illegalState (because : String) :
    FaultHead.ofProblem .illegalState [("reason", .text because)] =
      ⟨.problem .illegalState, some ("Illegal state: " ++ because), none⟩ := by
  rw [← Problem.text_illegalState]
  rfl

/-- The message of a fault that tells of a response has all its details. -/
theorem telling_eq (request status content : Value) {p : Problem} (tells : p.tellsResponse = true)
    (report : Option ResponseReport) :
    { FaultHead.ofProblem p
        [("request", request), ("status", status), ("content", content)] with report := report } =
      (⟨.problem p,
        some (p.text .null [("request", request), ("status", status), ("content", content)]),
        report⟩ : FaultHead) := by
  rw [FaultHead.ofProblem, FaultHead.details, if_pos tells]
  rfl

theorem reports_headOf (command : Command) (response : ResponseId) (status : Int)
    (message : Option String) :
    Reports command response status message (headOf command response status message) where
  rejected := by
    intro refused
    simp only [headOf, refused, Bool.or_eq_true, decide_eq_true_eq, if_true,
      ofProblem_authorization]
  absent := by
    rintro rfl
    refine (telling_eq _ _ _ rfl _).trans ?_
    rw [Problem.text_resourceNotFound, display_ofOption]
    rfl
  conflicting := by
    intro conflict
    have other : ¬ (status = 401 ∨ status = 403) := by omega
    have other' : status ≠ 404 := by omega
    simp only [headOf, conflict, other, other', Bool.or_eq_true, decide_eq_true_eq, if_true,
      if_false, ofProblem_illegalState]
  failed := by
    intro other
    simp only [List.mem_cons, List.not_mem_nil, or_false, not_or] at other
    obtain ⟨h401, h403, h404, h409, h412⟩ := other
    simp only [headOf, h401, h403, h404, h409, h412, decide_false, Bool.or_self,
      Bool.false_eq_true, if_false]
    refine (telling_eq _ _ _ rfl _).trans ?_
    rw [Problem.text_httpResponse, display_ofOption]
    rfl

/-- A body of text that comes in one chunk, once. -/
def streamed (status : Int) (s : String) (breaks : Option FaultPlan) : Response where
  status := status
  body := .pending [s.toList.map fun c => c.toNat.toUInt8]
  breaks := breaks

end ErrorStyle

end CloudSession
