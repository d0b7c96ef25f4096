import CloudSession.Proofs.Ensuring
import CloudSession.Proofs.Http.Keeping
import CloudSession.Proofs.Http.Lease

/-! # What a client ensures

A client whose failed responses become faults answers with the response of its last send, a good
one that nobody has touched since. What is said of such a response when it comes in is still so at
the end.
-/

namespace CloudSession

open Act

namespace ErrorStyle

variable {σ α : Type} [Wired σ]

theorem fails_failByStatus (style : ErrorStyle) (command : Command) (response : ResponseId) :
    Fails (style.failByStatus command response : Act σ α) :=
  .behind fun _ => .behind fun _ => nofun

theorem fails_fail (style : ErrorStyle) (command : Command) (response : ResponseId) :
    Fails (style.fail command response : Act σ α) := by
  cases style with
  | plain => exact fails_failByStatus .plain command response
  | vcloud =>
    refine .behind fun message => .behind fun r => ?_
    cases message with
    | none => exact fails_failByStatus .vcloud command response
    | some m =>
      dsimp only
      split
      · nofun
      · exact fails_failByStatus .vcloud command response

end ErrorStyle

namespace Client

variable {σ : Type} [Wired σ] {c : Client σ} {asked : Request} {timeout : Value}
variable {P : World σ → Prop} {Q : ResponseId → World σ → Prop}

/-- What a send may end with: on a good response `Q` holds, and else `P` does. -/
def Received (P : World σ → Prop) (Q : ResponseId → World σ → Prop) :
    Except FaultId ResponseId × World σ → Prop
  | (.error _, w) => P w
  | (.ok response, w) => ∃ r, Wire.Holds w response r ∧ if r.status < 300 then Q response w else P w

/-- What it takes of a client without filters to ensure something: `P` holds until it has received
what it answers with. -/
structure Ensures (c : Client σ) (asked : Request) (timeout : Value) (P : World σ → Prop)
    (Q : ResponseId → World σ → Prop) : Prop where
  lax : Wire.Lax (Retains P)
  filters : c.filters = []
  errors : c.errors.isSome
  retry : ∀ handler, c.retry = some handler → ∀ failures : Nat, handler.Leads (Retains P) failures
  received : ∀ w, P w → Received P Q ((Wire.send ⟨asked, timeout, c.verify⟩).play w)

section

variable (ensures : c.Ensures asked timeout P Q)

include ensures

theorem Ensures.conclude (command : Command) (response : ResponseId) :
    Act.Ensures P (c.conclude command response) Q P := by
  obtain ⟨style, known⟩ := Option.isSome_iff_exists.mp ensures.errors
  have fails : Fails (c.conclude command response) := by
    rw [conclude_eq, known]
    exact .bind (style.fails_fail command response)
  exact fails.ensures (leads_conclude ensures.lax.readable command response)

theorem Ensures.judge {w : World σ} (failures : Nat) {response : ResponseId}
    (received : Received P Q (.ok response, w)) :
    Ended (fun outcome w => match outcome with
      | .ok response => Q response w
      | .error _ => P w) P ((c.judge ⟨asked, asked, failures⟩ response).play w) := by
  obtain ⟨r, holds, good⟩ := received
  rw [judge_eq, play_bind_of_ok holds.play_response]
  split at good
  · rename_i fine
    rw [if_pos fine]
    exact good
  · rename_i failed
    rw [if_neg failed]
    have accepts : Act.Ensures P (c.accepts ⟨asked, asked, failures⟩ response) (fun _ => P) P :=
      .of_leads (leads_accepts ensures.lax _
        (fun handler here => ensures.retry handler here failures) response)
    refine (accepts w good).bind fun accepted w' _ still => ?_
    cases accepted with
    | true => exact still
    | false => exact (ensures.conclude _ response w' still).bind fun _ _ _ => id

theorem Ensures.trip (failures : Nat) :
    Act.Ensures P (c.trip asked timeout failures) (fun outcome w => match outcome with
      | .ok response => Q response w
      | .error _ => P w) P := by
  intro w start
  have received := ensures.received w start
  have unfiltered : c.filter asked = pure asked := by
    rw [filter_eq, ensures.filters, List.foldlM_nil]
  rw [trip_eq, unfiltered, pure_bind]
  cases played : (Wire.send ⟨asked, timeout, c.verify⟩ : Act σ ResponseId).play w with
  | mk outcome between =>
    rw [played] at received
    rw [play_bind_of_ok (play_attempt_of played)]
    cases outcome with
    | ok response => exact ensures.judge failures received
    | error i =>
      dsimp only
      rw [play_bind_of_ok (play_is _ _ _)]
      split <;> exact received

theorem Ensures.tripThen (failures : Nat) {next : Due → Act σ ResponseId}
    (behind : ∀ due, Act.Ensures P (next due) Q P) :
    Act.Ensures P (c.tripThen asked timeout failures next) Q P := by
  rw [tripThen_eq]
  refine (ensures.trip failures).bind fun outcome => ?_
  cases outcome with
  | ok response => exact .pure fun _ => id
  | error due => exact behind due

theorem Ensures.giveUp (due : Due) : Act.Ensures P (c.giveUp due) Q P := by
  cases due with
  | cut i => exact fun _ => id
  | accepted command response => exact ensures.conclude command.failed response

theorem Ensures.trips (left failures : Nat) :
    Act.Ensures P (c.trips asked timeout left failures) Q P := by
  induction left generalizing failures with
  | zero => exact ensures.tripThen failures ensures.giveUp
  | succ left ih => exact ensures.tripThen failures fun _ => ih (failures + 1)

end

theorem Ensures.execute {timeout : Value} (ensures : c.Ensures asked (c.waiting timeout) P Q) :
    Act.Ensures P (c.execute asked timeout) Q P := by
  rw [execute_eq]
  split
  · exact ensures.trips _ 0
  · apply ensures.tripThen
    intro due
    have fails : Fails (Transport.loseCount due : Act σ ResponseId) := by
      cases due with
      | cut i => exact .behind fun _ => .behind fun _ => nofun
      | accepted command response => exact nofun
    exact fails.ensures (leads_loseCount ensures.lax.readable due)

end Client

end CloudSession
