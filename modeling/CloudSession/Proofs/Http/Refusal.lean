import CloudSession.Proofs.Http.Halting
import CloudSession.Proofs.Http.Message

/-! # Refused logins

A login is never taken for a request whose lease has ended, so a response that refuses one becomes a
fault of authorization at once. The fault names the login and quotes the response.
-/

namespace CloudSession

open Act

/-- A refusal that is told in full: the body is at hand, what it says in a style can be taken from
it, and closing the response fails at most on input or output. -/
structure Response.Refuses (style : ErrorStyle) (r : Response) : Prop where
  status : r.status = 401 ∨ r.status = 403
  whole : ∃ bytes, r.body = .loaded bytes
  speaks : r.Speaks style
  gentle : ∀ plan, r.closeFails = some plan → plan.kind.isIo

namespace Response

/-- The credential is not authorized, and the reason names the request and quotes the response. -/
def refusal (r : Response) (style : ErrorStyle) (request : Request) : FaultHead :=
  .ofProblem .authorization
    [("reason", .text (ErrorStyle.reason request r.status (r.said style)))]

variable {r : Response} {bytes : List UInt8}

/-- A body that is at hand has the same text when the response is released. -/
theorem text_released (loaded : r.body = .loaded bytes) : r.released.text.1 = r.text.1 := by
  have still : r.released.body = .loaded bytes := by
    rw [released, loaded]
  rw [text_of_loaded loaded, text_of_loaded still]
  rfl

/-- Nothing that is said is lost when a response is released whose body is at hand. -/
theorem said_released (loaded : r.body = .loaded bytes) (style : ErrorStyle) :
    r.released.said style = r.said style := by
  have header : r.released.header? ErrorStyle.messageHeader = r.header? ErrorStyle.messageHeader :=
    rfl
  cases style <;> simp only [said, text_released loaded, header]

theorem Speaks.released {style : ErrorStyle} (speaks : r.Speaks style)
    (loaded : r.body = .loaded bytes) : r.released.Speaks style := by
  refine speaks.imp id fun mild failure failed => mild failure ?_
  rw [← text_released loaded, failed]

end Response

variable {σ α : Type} [Wired σ] {w : World σ} {i : ResponseId} {r : Response}

/-- A fault tells how the request of a number was refused. -/
def Tells (style : ErrorStyle) (n : Nat) (i : FaultId) (w : World σ) : Prop :=
  ∃ request r fault, (Wired.wire.read w.own).Answers n request r ∧ w.log.get? i = some fault ∧
    fault.toFaultHead = r.refusal style request

namespace ErrorStyle

variable (α) in
theorem play_fail (holds : Wire.Holds w i r) (refuses : r.status = 401 ∨ r.status = 403)
    (style : ErrorStyle) (speaks : r.Speaks style) (command : Command) :
    ∃ fault told w', (style.fail command i : Act σ α).play w = (.error fault, w') ∧
      w'.log.get? fault = some told ∧ told.toFaultHead = r.refusal style command.current := by
  obtain ⟨fault, w', ended, known⟩ := exists_play_fail_of_speaks α holds style speaks command
  refine ⟨fault, _, w', ended, known, ?_⟩
  -- No refusal tells of a resource that is busy.
  have idle : ∀ m, ¬ TellsBusy r.status m := by
    rintro m ⟨busy, -⟩
    omega
  have head (m : Option String) :
      headIn style command i r.status m = headOf command i r.status m := by
    cases style <;> cases m <;> simp only [headIn, idle, if_false]
  rw [head]
  simp only [headOf, Response.refusal, refuses, Bool.or_eq_true, decide_eq_true_eq, if_true]

end ErrorStyle

namespace RetryHandler

variable {renewal : Renewal} {invalidate : Act σ Unit} {command : Command}

/-- An answer to a login is never taken for the end of a lease. -/
theorem renewIfMarked_of_login (login : renewal.isLogin? command.current = some true)
    (response : ResponseId) :
    renewIfMarked renewal invalidate command response = do
      let _ ← Wire.response response
      return false := by
  rw [renewIfMarked, login]
  congr 1
  funext r
  split <;> rfl

/-- What a handler would do at the end of a lease does not matter for a login. -/
theorem shouldRetry_of_login (login : renewal.isLogin? command.current = some true)
    (other : Act σ Unit) (server : RetryHandler σ) (response : ResponseId) :
    shouldRetry (.delegating (.renew renewal invalidate) server) command response =
      shouldRetry (.delegating (.renew renewal other) server) command response := by
  simp only [shouldRetry, renewIfMarked_of_login login]

/-- A login that is refused is not worth another attempt. -/
theorem play_shouldRetry_of_refused (login : renewal.isLogin? command.current = some true)
    (server : RetryHandler σ) {style : ErrorStyle} (holds : Wire.Holds w i r)
    (refuses : r.Refuses style) :
    ∃ log, (shouldRetry (.delegating (.renew renewal invalidate) server) command i).play w =
      (.ok false, { Wire.withResponse w i r.released with log := log }) := by
  have own : (400 ≤ r.status && r.status < 500) = true := by
    rcases refuses.status with status | status <;> rw [status] <;> rfl
  obtain ⟨log, released, -⟩ := holds.play_release refuses.gentle
  refine ⟨log, ?_⟩
  rw [shouldRetry, play_bind_of_ok holds.play_response]
  simp only [own, if_true]
  rw [shouldRetry, renewIfMarked_of_login login]
  refine play_andFinally_of_ok ?_ released
  rw [play_bind_of_ok holds.play_response, play_pure]

end RetryHandler

/-- A login that is refused is judged to be over, by a fault that names the login and quotes the
response. -/
theorem Client.play_judge_of_refused {c : Client σ} {command : Command} {renewal : Renewal}
    {invalidate : Act σ Unit} {server : RetryHandler σ} {style : ErrorStyle}
    (retry : c.retry = some (.delegating (.renew renewal invalidate) server))
    (errors : c.errors = some style) (login : renewal.isLogin? command.current = some true)
    (holds : Wire.Holds w i r) (refuses : r.Refuses style) :
    ∃ fault told w', (c.judge command i).play w = (.error fault, w') ∧
      w'.log.get? fault = some told ∧ told.toFaultHead = r.refusal style command.current := by
  obtain ⟨bytes, loaded⟩ := refuses.whole
  have failed : ¬ r.status < 300 := by
    rcases refuses.status with status | status <;> rw [status] <;> decide
  obtain ⟨log, declined⟩ := RetryHandler.play_shouldRetry_of_refused login server holds refuses
  rw [← accepts_of_retry retry] at declined
  rw [judge_eq, play_bind_of_ok holds.play_response, if_neg failed, play_bind_of_ok declined,
    if_neg Bool.false_ne_true, conclude_eq, errors]
  -- A loaded body is still at hand when the response is released.
  have later : Wire.Holds { Wire.withResponse w i r.released with log := log } i r.released :=
    (holds.withResponse r.released).of_same rfl
  obtain ⟨fault, told, w', ended, known, tells⟩ :=
    ErrorStyle.play_fail Unit later refuses.status style (refuses.speaks.released loaded) command
  refine ⟨fault, told, w', play_bind_of_error (play_bind_of_error ended), known, ?_⟩
  rw [tells, Response.refusal, Response.refusal, Response.said_released loaded]
  rfl

end CloudSession
