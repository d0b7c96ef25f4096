import CloudSession.Http.Payload
import CloudSession.World

/-! # The wire to a server

Every request sent is recorded. The server answers the n-th request with its n-th reply, after a
while, and the responses that came are kept by number.
-/

namespace CloudSession

/-- How a server's certificate is checked. -/
inductive Verify where
  | off
  | on
  /-- Against certificates of one's own. -/
  | bundle (place : Value)

structure Sent where
  request : Request
  timeout : Value
  verify : Verify

/-- How a server replies, and how many seconds it takes. -/
structure Reply where
  takes : Float := 0
  outcome : Except FaultPlan Response

structure Wire where
  /-- The reply to each request, by its number. -/
  server : Nat → Reply
  sent : List Sent := []
  responses : Array Response := #[]
  closed : Nat := 0

abbrev ResponseId := Nat

/-- A state that holds a wire. -/
class Wired (σ : Type) where
  wire : Slot σ Wire

namespace Wire

variable {σ : Type} [Wired σ]

def response (i : ResponseId) : Act σ Response :=
  return (← Wired.wire.fetch).responses[i]?.getD {}

def setResponse (i : ResponseId) (r : Response) : Act σ Unit :=
  Wired.wire.change fun w => { w with responses := w.responses.setIfInBounds i r }

def send (sent : Sent) : Act σ ResponseId := do
  let wire ← (Wired.wire : Slot σ Wire).fetch
  let reply := wire.server wire.sent.length
  Wired.wire.store { wire with sent := wire.sent ++ [sent] }
  Act.pass reply.takes
  match reply.outcome with
  | .error plan => Act.failPlan plan
  | .ok response =>
    Wired.wire.change fun w => { w with responses := w.responses.push response }
    return wire.responses.size

def close : Act σ Unit := Wired.wire.change fun w => { w with closed := w.closed + 1 }

def settleRead {α : Type} : Except ReadFailure α → Act σ α
  | .ok a => pure a
  | .error failure => Act.failPlan failure.plan

/-- Read at most `limit` bytes of a body as text; a body that cannot be read has none. Bytes that
were read but are refused as text end the reading. -/
def readPayload (i : ResponseId) (limit : Value) : Act σ (Option String) := do
  let r ← response i
  let (result, after) := r.takeUpTo limit
  setResponse i after
  match result with
  | .ok bytes => return some (← settleRead (r.decode bytes))
  | .error failure =>
    let fault ← Act.plan failure.plan
    if ← Act.is FaultKind.isReadFailure fault then return none else throw fault

/-- The whole text of a body; a body that cannot be read has none. -/
def readText (i : ResponseId) : Act σ (Option String) := do
  let (result, after) := (← response i).text
  setResponse i after
  match result with
  | .ok s => return some s
  | .error failure =>
    let fault ← Act.plan failure.plan
    if ← Act.is FaultKind.isReadFailure fault then return none else throw fault

/-- Release a response; failures of input and output do not count. -/
def release (i : ResponseId) : Act σ Unit := do
  let r ← response i
  setResponse i r.released
  match r.closeFails with
  | none => pure ()
  | some plan =>
    let fault ← Act.plan plan
    if ← Act.is FaultKind.isIo fault then pure () else throw fault

/-- A world in which a response is another. -/
def withResponse (w : World σ) (i : ResponseId) (r : Response) : World σ :=
  { w with own := Wired.wire.write { Wired.wire.read w.own with
      responses := (Wired.wire.read w.own).responses.setIfInBounds i r } w.own }

@[simp]
theorem play_setResponse (i : ResponseId) (r : Response) (w : World σ) :
    (setResponse i r).play w = (.ok (), withResponse w i r) := rfl

@[simp]
theorem play_response (i : ResponseId) (w : World σ) :
    (response i : Act σ Response).play w =
      (.ok ((Wired.wire.read w.own).responses[i]?.getD {}), w) := rfl

section

variable {sent : Sent} {w : World σ}

/-- A request that is answered: it is on record, and its response is at hand. -/
theorem play_send_of_ok {response : Response}
    (answered : ((Wired.wire.read w.own).server (Wired.wire.read w.own).sent.length).outcome =
      .ok response) :
    (send sent).play w = (.ok (Wired.wire.read w.own).responses.size,
      { w with
        clock := w.clock +
          ((Wired.wire.read w.own).server (Wired.wire.read w.own).sent.length).takes
        own := Wired.wire.write { Wired.wire.read w.own with
          sent := (Wired.wire.read w.own).sent ++ [sent]
          responses := (Wired.wire.read w.own).responses.push response } w.own }) := by
  rw [send, Act.play_bind_of_ok (Slot.play_fetch _ w), Act.play_bind_of_ok (Slot.play_store _ _ w),
    Act.play_bind_of_ok (Act.play_pass _ _)]
  simp only [answered]
  rw [Act.play_bind_of_ok (Slot.play_change _ _ _)]
  simp only [Slot.read_write, Slot.write_write, Act.play_pure]

/-- A request that fails on the line is on record all the same. -/
theorem play_send_of_error {plan : FaultPlan}
    (failed : ((Wired.wire.read w.own).server (Wired.wire.read w.own).sent.length).outcome =
      .error plan) :
    (send sent : Act σ ResponseId).play w = (.error (w.log.make plan).2,
      { w with
        clock := w.clock +
          ((Wired.wire.read w.own).server (Wired.wire.read w.own).sent.length).takes
        log := (w.log.make plan).1
        own := Wired.wire.write { Wired.wire.read w.own with
          sent := (Wired.wire.read w.own).sent ++ [sent] } w.own }) := by
  rw [send, Act.play_bind_of_ok (Slot.play_fetch _ w), Act.play_bind_of_ok (Slot.play_store _ _ w),
    Act.play_bind_of_ok (Act.play_pass _ _)]
  simp only [failed]
  rfl

/-- However the server answers, a request that is sent is on record. -/
theorem sent_send (sent : Sent) (w : World σ) :
    (Wired.wire.read ((send sent : Act σ ResponseId).play w).2.own : Wire).sent =
      (Wired.wire.read w.own : Wire).sent ++ [sent] := by
  cases answer : ((Wired.wire.read w.own).server (Wired.wire.read w.own).sent.length).outcome with
  | ok response => rw [play_send_of_ok answer, Slot.read_write]
  | error plan => rw [play_send_of_error answer, Slot.read_write]

/-- However the server answers, it takes its time. -/
theorem clock_send (sent : Sent) (w : World σ) :
    ((send sent : Act σ ResponseId).play w).2.clock = w.clock +
      ((Wired.wire.read w.own : Wire).server (Wired.wire.read w.own : Wire).sent.length).takes := by
  cases answer : ((Wired.wire.read w.own).server (Wired.wire.read w.own).sent.length).outcome with
  | ok response => rw [play_send_of_ok answer]
  | error plan => rw [play_send_of_error answer]

/-- A send takes no nap. -/
theorem naps_send (sent : Sent) (w : World σ) :
    ((send sent : Act σ ResponseId).play w).2.naps = w.naps := by
  cases answer : ((Wired.wire.read w.own).server (Wired.wire.read w.own).sent.length).outcome with
  | ok response => rw [play_send_of_ok answer]
  | error plan => rw [play_send_of_error answer]

end

end Wire

end CloudSession
