import CloudSession.Http.Client
import CloudSession.Proofs.Twin
import Mathlib.Data.List.Forall2

/-! # Transport of requests that look the same

Requests that differ in what their headers hold are treated the same way: as often, behind the same
naps, and with the same outcome. What one client sends is related to what the other sends, one by
one, as what they are asked for is.
-/

namespace CloudSession

open Act

variable {σ α : Type} [Wired σ] {S : σ → σ → Prop} {R : Request → Request → Prop}

/-- Related requests that are sent in the same way. -/
structure Sent.Paired (R : Request → Request → Prop) (a b : Sent) : Prop where
  request : R a.request b.request
  timeout : a.timeout = b.timeout
  verify : a.verify = b.verify

namespace Wire

/-- Two wires to the same server, over which related requests went with the same responses. -/
structure Paired (R : Request → Request → Prop) (a b : Wire) : Prop where
  server : a.server = b.server
  sent : List.Forall₂ (Sent.Paired R) a.sent b.sent
  responses : a.responses = b.responses
  closed : a.closed = b.closed

variable (paired : (Wired.wire : Slot σ Wire).Paired S (Paired R))

include paired

theorem paired_response (i : ResponseId) :
    Act.Paired S (· = ·) (response i : Act σ Response) (response i) := by
  apply paired.fetch.bind
  intro a b same
  rw [same.responses]
  exact .pure rfl

theorem paired_setResponse (i : ResponseId) (r : Response) :
    Act.Paired S (· = ·) (setResponse i r : Act σ Unit) (setResponse i r) :=
  paired.change fun _ _ same => { same with responses := by rw [same.responses] }

theorem paired_close : Act.Paired S (· = ·) (close : Act σ Unit) close :=
  paired.change fun _ _ same => { same with closed := by rw [same.closed] }

/-- The server answers related requests the same. -/
theorem paired_send {sent sent' : Sent} (related : sent.Paired R sent') :
    Act.Paired S (· = ·) (send sent : Act σ ResponseId) (send sent') := by
  apply paired.fetch.bind
  intro a b same
  rw [same.server, same.sent.length_eq, same.responses]
  refine .bindEq (paired.store ⟨rfl, ?_, rfl, same.closed⟩) fun _ =>
    .bindEq (.pass _) fun _ => ?_
  · exact List.rel_append same.sent (.cons related .nil)
  · cases (b.server b.sent.length).outcome with
    | error plan => exact .failPlan plan
    | ok response =>
      refine .bindEq (paired.change fun _ _ same => ?_) fun _ => .pure rfl
      exact { same with responses := by rw [same.responses] }

omit [Wired σ] paired in
theorem paired_unreadable (plan : FaultPlan) :
    Act.Paired S (· = ·)
      (do
        let fault ← Act.plan plan
        if ← Act.is FaultKind.isReadFailure fault then return none else throw fault :
        Act σ (Option String))
      (do
        let fault ← Act.plan plan
        if ← Act.is FaultKind.isReadFailure fault then return none else throw fault) := by
  refine .bindEq (.plan plan) fun fault => .bindEq (.is _ _) fun unreadable => ?_
  cases unreadable with
  | true => exact .pure rfl
  | false => exact .throw fault

omit [Wired σ] paired in
theorem paired_settleRead {α : Type} (reading : Except ReadFailure α) :
    Act.Paired S (· = ·) (settleRead reading : Act σ α) (settleRead reading) := by
  cases reading with
  | ok a => exact .pure rfl
  | error failure => exact .failPlan failure.plan

theorem paired_readPayload (i : ResponseId) (limit : Value) :
    Act.Paired S (· = ·) (readPayload i limit : Act σ (Option String)) (readPayload i limit) := by
  refine .bindEq (paired_response paired i) fun r => ?_
  rcases r.takeUpTo limit with ⟨result, after⟩
  refine .bindEq (paired_setResponse paired i after) fun _ => ?_
  cases result with
  | ok bytes => exact .bindEq (paired_settleRead (r.decode bytes)) fun _ => .pure rfl
  | error failure => exact paired_unreadable failure.plan

theorem paired_readText (i : ResponseId) :
    Act.Paired S (· = ·) (readText i : Act σ (Option String)) (readText i) := by
  refine .bindEq (paired_response paired i) fun r => ?_
  rcases r.text with ⟨result, after⟩
  refine .bindEq (paired_setResponse paired i after) fun _ => ?_
  cases result with
  | ok s => exact .pure rfl
  | error failure => exact paired_unreadable failure.plan

theorem paired_release (i : ResponseId) :
    Act.Paired S (· = ·) (release i : Act σ Unit) (release i) := by
  refine .bindEq (paired_response paired i) fun r => ?_
  refine .bindEq (paired_setResponse paired i _) fun _ => ?_
  cases r.closeFails with
  | none => exact .pure rfl
  | some plan =>
    refine .bindEq (.plan plan) fun fault => .bindEq (.is _ _) fun swallowed => ?_
    cases swallowed with
    | true => exact .pure rfl
    | false => exact .throw fault

end Wire

variable {command command' : Command}

namespace RetryHandler

/-- A handler whose orders to forget are paired with themselves. -/
def Paired (S : σ → σ → Prop) : RetryHandler σ → Prop
  | .decline => True
  | .renew _ invalidate => Act.Paired S (· = ·) invalidate invalidate
  | .backoff _ => True
  | .delegating client server => client.Paired S ∧ server.Paired S

omit [Wired σ] in
theorem paired_nap (seconds : Number) :
    Act.Paired S (· = ·) (nap seconds : Act σ Unit) (nap seconds) := by
  unfold nap
  split
  · exact .fail _
  · exact .nap _

variable (paired : (Wired.wire : Slot σ Wire).Paired S (Wire.Paired R))
  (alike : command.redacted = command'.redacted)

include paired alike

/-- A login is recognized by the names of its headers. -/
theorem paired_renewIfMarked (renewal : Renewal) {invalidate : Act σ Unit}
    (forgets : Act.Paired S (· = ·) invalidate invalidate) (response : ResponseId) :
    Act.Paired S (· = ·) (renewIfMarked renewal invalidate command response)
      (renewIfMarked renewal invalidate command' response) := by
  have current : command.current.redacted = command'.current.redacted :=
    congrArg Command.current alike
  have login : renewal.isLogin? command.current = renewal.isLogin? command'.current := by
    rw [← renewal.isLogin?_redacted, current, renewal.isLogin?_redacted]
  refine .bindEq (Wire.paired_response paired response) fun r => ?_
  rw [login]
  split
  · exact .pure rfl
  · refine .bindEq (.demand _ _) fun login => ?_
    cases login with
    | true => exact .pure rfl
    | false =>
      refine .bindEq (Wire.paired_readPayload paired response _) fun body => ?_
      refine .bindEq (.demand _ _) fun marked => ?_
      cases marked with
      | true => exact .bindEq forgets fun _ => .pure rfl
      | false => exact .pure rfl

theorem paired_napIfTransient (b : Backoff) (response : ResponseId) :
    Act.Paired S (· = ·) (napIfTransient b command response : Act σ Bool)
      (napIfTransient b command' response) := by
  have failures : command.failures = command'.failures := by
    show command.redacted.failures = command'.redacted.failures
    rw [alike]
  rw [napIfTransient, napIfTransient, failures]
  refine .bindEq (Wire.paired_response paired response) fun r => ?_
  refine .bindEq (.demand _ _) fun transient => ?_
  cases transient with
  | false => exact .pure rfl
  | true =>
    refine .bindEq (.demand _ _) fun limit => ?_
    split
    · exact .pure rfl
    · cases b.delay (command'.failures + 1) with
      | error kind => exact .fail _
      | ok seconds => exact .bindEq (paired_nap seconds) fun _ => .pure rfl

theorem paired_shouldRetry {handler : RetryHandler σ} (handles : handler.Paired S)
    (response : ResponseId) :
    Act.Paired S (· = ·) (handler.shouldRetry command response)
      (handler.shouldRetry command' response) := by
  have release := Wire.paired_release paired response
  induction handler with
  | decline => exact .bindEq release fun _ => .pure rfl
  | renew renewal invalidate =>
    exact (paired_renewIfMarked paired alike renewal handles response).andFinally release
  | backoff b => exact (paired_napIfTransient paired alike b response).andFinally release
  | delegating client server ofClient ofServer =>
    refine .bindEq (Wire.paired_response paired response) fun r => ?_
    dsimp only
    split
    · exact ofClient handles.1
    · split
      · exact ofServer handles.2
      · exact .bindEq release fun _ => .pure rfl

end RetryHandler

namespace ErrorStyle

variable (paired : (Wired.wire : Slot σ Wire).Paired S (Wire.Paired R))

include paired

theorem paired_message (style : ErrorStyle) (response : ResponseId) :
    Act.Paired S (· = ·) (style.message response : Act σ (Option String))
      (style.message response) := by
  have body : Act.Paired S (· = ·) (bodyMessage response : Act σ (Option String))
      (bodyMessage response) :=
    .bindEq (Wire.paired_readText paired response) fun _ => .pure rfl
  cases style with
  | plain => exact body
  | vcloud =>
    refine .bindEq (Wire.paired_response paired response) fun r => ?_
    split
    · exact .pure rfl
    · exact body

variable (alike : command.redacted = command'.redacted)

include alike

theorem paired_failByStatus (style : ErrorStyle) (response : ResponseId) :
    Act.Paired S (· = ·) (style.failByStatus command response : Act σ α)
      (style.failByStatus command' response) := by
  refine .bindEq (paired_message paired style response) fun message => ?_
  refine .bindEq (Wire.paired_response paired response) fun r => .failAlike ?_
  rw [← headOf_redacted, alike, headOf_redacted]

/-- What is said of a failed request names no header. -/
theorem paired_fail (style : ErrorStyle) (response : ResponseId) :
    Act.Paired S (· = ·) (style.fail command response : Act σ α)
      (style.fail command' response) := by
  cases style with
  | plain => exact paired_failByStatus paired alike .plain response
  | vcloud =>
    refine .bindEq (paired_message paired .vcloud response) fun message => ?_
    refine .bindEq (Wire.paired_response paired response) fun r => ?_
    cases message with
    | none => exact paired_failByStatus paired alike .vcloud response
    | some m =>
      dsimp only
      split
      · exact .fail _
      · exact paired_failByStatus paired alike .vcloud response

end ErrorStyle

namespace Client

/-- How two attempts end that look the same. -/
inductive Turn : Except Due ResponseId → Except Due ResponseId → Prop where
  | settled (response : ResponseId) : Turn (.ok response) (.ok response)
  | cut (i : FaultId) : Turn (.error (.cut i)) (.error (.cut i))
  | accepted {command command' : Command} (response : ResponseId) :
    command.redacted = command'.redacted →
    Turn (.error (.accepted command response)) (.error (.accepted command' response))

variable {c c' : Client σ} {asked asked' : Request}

/-- Two clients that differ in their filters, which make related requests of what they are asked
for. -/
structure Paired (S : σ → σ → Prop) (R : Request → Request → Prop) (c c' : Client σ)
    (asked asked' : Request) : Prop where
  same : c' = { c with filters := c'.filters }
  wire : (Wired.wire : Slot σ Wire).Paired S (Wire.Paired R)
  retry : ∀ handler, c.retry = some handler → handler.Paired S
  alike : ∀ {r r'}, R r r' → r.redacted = r'.redacted
  given : asked.redacted = asked'.redacted
  filter : Act.Paired S R (c.filter asked) (c'.filter asked')

variable (paired : c.Paired S R c' asked asked')

include paired

theorem Paired.accepts (alike : command.redacted = command'.redacted) (response : ResponseId) :
    Act.Paired S (· = ·) (c.accepts command response) (c'.accepts command' response) := by
  rw [paired.same]
  rw [accepts_eq, accepts_eq]
  dsimp only
  split
  · exact .pure rfl
  · rename_i handler here
    exact RetryHandler.paired_shouldRetry paired.wire alike (paired.retry handler here) response

theorem Paired.conclude (alike : command.redacted = command'.redacted) (response : ResponseId) :
    Act.Paired S (· = ·) (c.conclude command response) (c'.conclude command' response) := by
  rw [paired.same]
  rw [conclude_eq, conclude_eq]
  dsimp only
  split
  · exact .pure rfl
  · exact .bindEq (ErrorStyle.paired_fail paired.wire alike _ response) fun _ => .pure rfl

theorem Paired.judge (alike : command.redacted = command'.redacted) (response : ResponseId) :
    Act.Paired S Turn (c.judge command response) (c'.judge command' response) := by
  refine .bindEq (Wire.paired_response paired.wire response) fun r => ?_
  split
  · exact .pure (.settled response)
  · refine .bindEq (paired.accepts alike response) fun accepted => ?_
    cases accepted with
    | true => exact .pure (.accepted response alike)
    | false => exact .bindEq (paired.conclude alike response) fun i => .pure (.settled i)

theorem Paired.trip (timeout : Value) (failures : Nat) :
    Act.Paired S Turn (c.trip asked timeout failures) (c'.trip asked' timeout failures) := by
  apply paired.filter.bind
  intro current current' related
  have verify : c'.verify = c.verify := by rw [paired.same]
  refine .bindEq (Paired.attempt (Wire.paired_send paired.wire ⟨related, rfl, verify.symm⟩)) ?_
  intro outcome
  cases outcome with
  | ok response =>
    apply paired.judge
    simp only [Command.redacted, paired.given, paired.alike related]
  | error i =>
    refine .bindEq (.is _ _) fun cut => ?_
    cases cut with
    | true => exact .pure (.cut i)
    | false => exact .throw i

theorem Paired.tripThen (timeout : Value) (failures : Nat) {next next' : Due → Act σ ResponseId}
    (behind : ∀ due due', Turn (.error due) (.error due') →
      Act.Paired S (· = ·) (next due) (next' due')) :
    Act.Paired S (· = ·) (c.tripThen asked timeout failures next)
      (c'.tripThen asked' timeout failures next') := by
  apply (paired.trip timeout failures).bind
  intro a b turn
  cases a with
  | ok response =>
    cases turn
    exact .pure rfl
  | error due =>
    cases b with
    | ok response => cases turn
    | error due' => exact behind due due' turn

theorem Paired.giveUp {due due' : Due} (turn : Turn (.error due) (.error due')) :
    Act.Paired S (· = ·) (c.giveUp due) (c'.giveUp due') := by
  cases turn with
  | cut i => exact .throw i
  | accepted response alike =>
    exact paired.conclude (by rw [Command.redacted_failed, alike, Command.redacted_failed]) response

theorem Paired.trips (timeout : Value) (left failures : Nat) :
    Act.Paired S (· = ·) (c.trips asked timeout left failures)
      (c'.trips asked' timeout left failures) := by
  induction left generalizing failures with
  | zero => exact paired.tripThen timeout failures fun _ _ turn => paired.giveUp turn
  | succ left ih => exact paired.tripThen timeout failures fun _ _ _ => ih (failures + 1)

theorem Paired.execute (timeout : Value) :
    Act.Paired S (· = ·) (c.execute asked timeout) (c'.execute asked' timeout) := by
  have limit : c'.limit? = c.limit? := by rw [paired.same]; rfl
  have waiting : c'.waiting timeout = c.waiting timeout := by rw [paired.same]; rfl
  rw [execute_eq, execute_eq, limit, waiting]
  split
  · exact paired.trips _ _ 0
  · apply paired.tripThen
    intro due due' turn
    cases turn with
    | cut i => exact .failKindWhile i _
    | accepted response alike => exact .fail _

end Client

end CloudSession
