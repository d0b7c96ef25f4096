import CloudSession.Http.Client
import CloudSession.Proofs.Http.Ensuring
import CloudSession.Proofs.Http.Lease
import CloudSession.Service.Store

/-! # What becomes of the attempts of a request

Every attempt but the last one missed: its line was cut, or its response failed and the retry
handler accepted it. The last one alone decides how the request ends. The account of a request says
so attempt by attempt, and it is an account of what is carried out.
-/

namespace CloudSession

open Act

namespace Transport

variable {σ : Type} [Wired σ] {t : Transport σ} {asked : Request} {timeout : Value} {failures : Nat}

/-- A request is sent as the filters made it, and so it ends on the line. -/
structure Sends (t : Transport σ) (asked : Request) (timeout : Value) (w : World σ) (sent : Sent)
    (outcome : Except FaultId ResponseId) (w' : World σ) : Prop where
  played : ∃ between, (t.filter asked).play w = (.ok sent.request, between) ∧
    (Wire.send sent).play between = (outcome, w')
  timeout : sent.timeout = timeout
  verify : sent.verify = t.verify

/-- An attempt that counts as a failure. The handler that accepts a response is told how many there
were before. -/
inductive Misses (t : Transport σ) (asked : Request) (timeout : Value) (failures : Nat)
    (w : World σ) (sent : Sent) : World σ → Prop where
  | cut {i : FaultId} {w' : World σ} :
    t.Sends asked timeout w sent (.error i) w' → w'.log.is FaultKind.isConnection i →
    Misses t asked timeout failures w sent w'
  | accepted {response : ResponseId} {r : Response} {consult : Consult σ} {between w' : World σ} :
    t.Sends asked timeout w sent (.ok response) between → Wire.Holds between response r →
    300 ≤ r.status → t.retry = some consult →
    (consult ⟨asked, sent.request, failures⟩ response).play between = (.ok true, w') →
    Misses t asked timeout failures w sent w'

/-- Attempts in a row that each counted as one failure. -/
inductive Missed (t : Transport σ) (asked : Request) (timeout : Value) (start : World σ) :
    List Sent → World σ → Prop where
  | none : Missed t asked timeout start [] start
  | more {missed : List Sent} {sent : Sent} {w w' : World σ} :
    Missed t asked timeout start missed w → t.Misses asked timeout missed.length w sent w' →
    Missed t asked timeout start (missed ++ [sent]) w'

/-- A failed response is not followed by another attempt: nobody accepts it, or no attempt is left
for the command, whose failure counts all the same. -/
inductive Drops (t : Transport σ) (command : Command) (response : ResponseId) (spent : Prop)
    (w : World σ) : Command → World σ → Prop where
  | absent : t.retry = none → Drops t command response spent w command w
  | declined {consult : Consult σ} {w' : World σ} :
    t.retry = some consult → (consult command response).play w = (.ok false, w') →
    Drops t command response spent w command w'
  | exhausted {consult : Consult σ} {w' : World σ} :
    t.retry = some consult → (consult command response).play w = (.ok true, w') → spent →
    Drops t command response spent w command.failed w'

/-- What the error handler makes of a failed response. -/
inductive Settles (t : Transport σ) (command : Command) (response : ResponseId) (w : World σ) :
    Except FaultId ResponseId × World σ → Prop where
  | unhandled : t.errors = none → Settles t command response w (.ok response, w)
  | raised {object : Objection σ} {i : FaultId} {w' : World σ} :
    t.errors = some object → (object command response).play w = (.error i, w') →
    Settles t command response w (.error i, w')
  | passed {object : Objection σ} {w' : World σ} :
    t.errors = some object → (object command response).play w = (.ok (), w') →
    Settles t command response w (.ok response, w')

/-- How the last attempt decides, where `spent` tells that no other one is left. -/
inductive Ends (t : Transport σ) (asked : Request) (timeout : Value) (failures : Nat)
    (spent : Prop) (w : World σ) (sent : Sent) : Except FaultId ResponseId × World σ → Prop where
  | answered {response : ResponseId} {r : Response} {w' : World σ} :
    t.Sends asked timeout w sent (.ok response) w' → Wire.Holds w' response r → r.status < 300 →
    Ends t asked timeout failures spent w sent (.ok response, w')
  | cut {i : FaultId} {w' : World σ} :
    t.Sends asked timeout w sent (.error i) w' → w'.log.is FaultKind.isConnection i → spent →
    Ends t asked timeout failures spent w sent (.error i, w')
  | broken {i : FaultId} {w' : World σ} :
    t.Sends asked timeout w sent (.error i) w' → ¬ w'.log.is FaultKind.isConnection i →
    Ends t asked timeout failures spent w sent (.error i, w')
  | failed {response : ResponseId} {r : Response} {between w' : World σ} {command : Command}
      {played : Except FaultId ResponseId × World σ} :
    t.Sends asked timeout w sent (.ok response) between → Wire.Holds between response r →
    300 ≤ r.status →
    t.Drops ⟨asked, sent.request, failures⟩ response spent between command w' →
    t.Settles command response w' played → Ends t asked timeout failures spent w sent played

/-- How one attempt ends: it decides, or it counts as a failure and would decide if no other one was
left. -/
inductive Turns (t : Transport σ) (asked : Request) (timeout : Value) (failures : Nat)
    (w : World σ) (sent : Sent) : Except FaultId (Except Due ResponseId) × World σ → Prop where
  | due {due : Due} {w' : World σ} :
    t.Misses asked timeout failures w sent w' →
    t.Ends asked timeout failures True w sent ((t.giveUp due).play w') →
    Turns t asked timeout failures w sent (.ok (.error due), w')
  | ended {response : ResponseId} {w' : World σ} :
    t.Ends asked timeout failures False w sent (.ok response, w') →
    Turns t asked timeout failures w sent (.ok (.ok response), w')
  | fault {i : FaultId} {w' : World σ} :
    t.Ends asked timeout failures False w sent (.error i, w') →
    Turns t asked timeout failures w sent (.error i, w')

/-- Filters and a retry handler that never fail. -/
structure Steady (t : Transport σ) : Prop where
  filters : ∀ f ∈ t.filters, ∀ r w, ∃ r' w', (f r).play w = (.ok r', w')
  retry : ∀ consult, t.retry = some consult → ∀ command response w,
    ∃ answer w', (consult command response).play w = (.ok answer, w')

/-- Filters and handlers that send nothing themselves. -/
structure Silent (t : Transport σ) : Prop where
  filters : ∀ f ∈ t.filters, ∀ r, Keeps (Alike fun s => (Wired.wire.read s : Wire).sent) (f r)
  retry : ∀ consult, t.retry = some consult → ∀ command response,
    Keeps (Alike fun s => (Wired.wire.read s : Wire).sent) (consult command response)
  errors : ∀ object, t.errors = some object → ∀ command response,
    Keeps (Alike fun s => (Wired.wire.read s : Wire).sent) (object command response)

/-! ## One attempt -/

omit [Wired σ] in
theorem Drops.mono {command last : Command} {response : ResponseId} {spent spent' : Prop}
    {w w' : World σ} (drops : t.Drops command response spent w last w') (more : spent → spent') :
    t.Drops command response spent' w last w' := by
  cases drops with
  | absent none => exact .absent none
  | declined known answer => exact .declined known answer
  | exhausted known answer last => exact .exhausted known answer (more last)

theorem Ends.mono {spent spent' : Prop} {w : World σ} {sent : Sent}
    {played : Except FaultId ResponseId × World σ}
    (ends : t.Ends asked timeout failures spent w sent played) (more : spent → spent') :
    t.Ends asked timeout failures spent' w sent played := by
  cases ends with
  | answered sends holds fine => exact .answered sends holds fine
  | cut sends connection last => exact .cut sends connection (more last)
  | broken sends other => exact .broken sends other
  | failed sends holds failed drops settles =>
    exact .failed sends holds failed (drops.mono more) settles

omit [Wired σ] in
theorem settles_conclude (command : Command) (response : ResponseId) (w : World σ) :
    t.Settles command response w ((t.conclude command response).play w) := by
  cases known : t.errors with
  | none =>
    rw [conclude, known]
    exact .unhandled known
  | some object =>
    rw [conclude, known]
    cases ended : (object command response).play w with
    | mk outcome w' =>
      cases outcome with
      | error i =>
        rw [play_bind_of_error ended]
        exact .raised known ended
      | ok _ =>
        rw [play_bind_of_ok ended, play_pure]
        exact .passed known ended

section

variable (steady : t.Steady)

include steady

omit [Wired σ] in
theorem Steady.filter (request : Request) (w : World σ) :
    ∃ current w', (t.filter request).play w = (.ok current, w') := by
  have each : ∀ filters : List (Filter σ), (∀ f ∈ filters, f ∈ t.filters) → ∀ r w,
      ∃ current w', (filters.foldlM (fun r (f : Filter σ) => f r) r).play w =
        (.ok current, w') := by
    intro filters
    induction filters with
    | nil =>
      intro _ r w
      exact ⟨r, w, rfl⟩
    | cons f rest ih =>
      intro among r w
      obtain ⟨r', w', filtered⟩ := steady.filters f (among f List.mem_cons_self) r w
      rw [List.foldlM_cons, play_bind_of_ok filtered]
      exact ih (fun g later => among g (List.mem_cons_of_mem f later)) r' w'
  exact each t.filters (fun _ => id) request w

/-- What a response leads to. -/
theorem Steady.turns_judge {w between : World σ} {sent : Sent} {response : ResponseId}
    (sends : t.Sends asked timeout w sent (.ok response) between) :
    t.Turns asked timeout failures w sent
      ((t.judge ⟨asked, sent.request, failures⟩ response).play between) := by
  obtain ⟨_, _, answered⟩ := sends.played
  obtain ⟨r, _, holds⟩ := Wire.Holds.of_send answered
  rw [judge, play_bind_of_ok holds.play_response]
  by_cases fine : r.status < 300
  · rw [if_pos fine]
    exact .ended (.answered sends holds fine)
  · rw [if_neg fine]
    have failed : 300 ≤ r.status := by omega
    -- A response that is dropped goes to the error handler.
    have dropped {w' : World σ} (drops : t.Drops ⟨asked, sent.request, failures⟩ response False
        between ⟨asked, sent.request, failures⟩ w') : t.Turns asked timeout failures w sent
          ((do return .ok (← t.conclude ⟨asked, sent.request, failures⟩ response) :
            Act σ (Except Due ResponseId)).play w') := by
      have settles := settles_conclude (t := t) ⟨asked, sent.request, failures⟩ response w'
      cases ended : (t.conclude ⟨asked, sent.request, failures⟩ response).play w' with
      | mk outcome w'' =>
        rw [ended] at settles
        cases outcome with
        | error i =>
          rw [play_bind_of_error ended]
          exact .fault (.failed sends holds failed drops settles)
        | ok response' =>
          rw [play_bind_of_ok ended, play_pure]
          exact .ended (.failed sends holds failed drops settles)
    cases known : t.retry with
    | none =>
      rw [accepts, known]
      exact dropped (.absent known)
    | some consult =>
      rw [accepts, known]
      obtain ⟨answer, w', consulted⟩ := steady.retry consult known
        ⟨asked, sent.request, failures⟩ response between
      rw [play_bind_of_ok consulted]
      cases answer with
      | false => exact dropped (.declined known consulted)
      | true =>
        refine .due (.accepted sends holds failed known consulted) ?_
        exact .failed sends holds failed (.exhausted known consulted trivial)
          (settles_conclude _ response w')

/-- One attempt sends one request. -/
theorem Steady.turns_trip (asked : Request) (timeout : Value) (failures : Nat) (w : World σ) :
    ∃ sent, t.Turns asked timeout failures w sent ((t.trip asked timeout failures).play w) := by
  obtain ⟨current, between, filtered⟩ := steady.filter asked w
  refine ⟨⟨current, timeout, t.verify⟩, ?_⟩
  rw [trip, play_bind_of_ok filtered]
  cases answered : (Wire.send ⟨current, timeout, t.verify⟩ : Act σ ResponseId).play between with
  | mk outcome w' =>
    have sends : t.Sends asked timeout w ⟨current, timeout, t.verify⟩ outcome w' :=
      ⟨⟨between, filtered, answered⟩, rfl, rfl⟩
    rw [play_bind_of_ok (play_attempt_of answered)]
    cases outcome with
    | ok response => exact steady.turns_judge sends
    | error i =>
      dsimp only
      rw [play_bind_of_ok (play_is _ _ _)]
      split
      · rename_i connection
        exact .due (.cut sends connection) (.cut sends connection trivial)
      · rename_i other
        exact .fault (.broken sends other)

/-! ## All attempts -/

/-- The attempts from one on, where some missed before: each either decides or adds a failure. -/
theorem Steady.accounts_trips {start w : World σ} {earlier : List Sent} (left : Nat)
    (before : t.Missed asked timeout start earlier w) :
    ∃ missed top last, t.Missed asked timeout start missed top ∧
      missed.length ≤ earlier.length + left ∧
      t.Ends asked timeout missed.length (missed.length = earlier.length + left) top last
        ((t.trips asked timeout left earlier.length).play w) := by
  induction left generalizing earlier w with
  | zero =>
    obtain ⟨last, turns⟩ := steady.turns_trip asked timeout earlier.length w
    refine ⟨earlier, w, last, before, Nat.le_refl _, ?_⟩
    rw [trips, tripThen]
    generalize played : (t.trip asked timeout earlier.length).play w = turn at turns
    cases turns with
    | due misses ends =>
      rw [play_bind_of_ok played]
      exact ends.mono fun _ => rfl
    | ended ends =>
      rw [play_bind_of_ok played, play_pure]
      exact ends.mono False.elim
    | fault ends =>
      rw [play_bind_of_error played]
      exact ends.mono False.elim
  | succ left ih =>
    obtain ⟨last, turns⟩ := steady.turns_trip asked timeout earlier.length w
    rw [trips, tripThen]
    generalize played : (t.trip asked timeout earlier.length).play w = turn at turns
    cases turns with
    | due misses ends =>
      rw [play_bind_of_ok played]
      have later := ih (before.more misses)
      rw [List.length_append, List.length_singleton, Nat.add_right_comm] at later
      exact later
    | ended ends =>
      rw [play_bind_of_ok played, play_pure]
      exact ⟨earlier, w, last, before, Nat.le_add_right _ _, ends.mono False.elim⟩
    | fault ends =>
      rw [play_bind_of_error played]
      exact ⟨earlier, w, last, before, Nat.le_add_right _ _, ends.mono False.elim⟩

end

/-! ## What is on record -/

section

variable (silent : t.Silent)

include silent

theorem Silent.sent_sends {w w' : World σ} {sent : Sent} {outcome : Except FaultId ResponseId}
    (sends : t.Sends asked timeout w sent outcome w') :
    (Wired.wire.read w'.own).sent = (Wired.wire.read w.own).sent ++ [sent] := by
  obtain ⟨between, filtered, answered⟩ := sends.played
  have quiet := keeps_filter silent.filters asked w
  have record := Wire.sent_send sent between
  rw [filtered] at quiet
  rw [answered] at record
  exact record.trans (congrArg (· ++ [sent]) quiet)

theorem Silent.sent_misses {w w' : World σ} {sent : Sent}
    (misses : t.Misses asked timeout failures w sent w') :
    (Wired.wire.read w'.own).sent = (Wired.wire.read w.own).sent ++ [sent] := by
  cases misses with
  | cut sends _ => exact silent.sent_sends sends
  | @accepted response _ consult between _ sends _ _ known consulted =>
    have quiet := silent.retry consult known ⟨asked, sent.request, failures⟩ response between
    rw [consulted] at quiet
    exact quiet.trans (silent.sent_sends sends)

theorem Silent.sent_missed {start top : World σ} {missed : List Sent}
    (before : t.Missed asked timeout start missed top) :
    (Wired.wire.read top.own).sent = (Wired.wire.read start.own).sent ++ missed := by
  induction before with
  | none => rw [List.append_nil]
  | more _ misses ih => rw [silent.sent_misses misses, ih, List.append_assoc]

theorem Silent.sent_drops {command last : Command} {response : ResponseId} {spent : Prop}
    {w w' : World σ} (drops : t.Drops command response spent w last w') :
    (Wired.wire.read w'.own).sent = (Wired.wire.read w.own).sent := by
  cases drops with
  | absent _ => rfl
  | declined known consulted | exhausted known consulted _ =>
    have quiet := silent.retry _ known command response w
    rwa [consulted] at quiet

theorem Silent.sent_settles {command : Command} {response : ResponseId} {w : World σ}
    {played : Except FaultId ResponseId × World σ}
    (settles : t.Settles command response w played) :
    (Wired.wire.read played.2.own).sent = (Wired.wire.read w.own).sent := by
  cases settles with
  | unhandled _ => rfl
  | raised known objected | passed known objected =>
    have quiet := silent.errors _ known command response w
    rwa [objected] at quiet

theorem Silent.sent_ends {spent : Prop} {w : World σ} {sent : Sent}
    {played : Except FaultId ResponseId × World σ}
    (ends : t.Ends asked timeout failures spent w sent played) :
    (Wired.wire.read played.2.own).sent = (Wired.wire.read w.own).sent ++ [sent] := by
  cases ends with
  | answered sends _ _ | cut sends _ _ | broken sends _ => exact silent.sent_sends sends
  | failed sends _ _ drops settles =>
    rw [silent.sent_settles settles, silent.sent_drops drops, silent.sent_sends sends]

end

/-! ## Error handlers that always end on a fault -/

/-- A response that is returned in spite of such a handler did not fail. -/
theorem Ends.status_lt {spent : Prop} {w w' : World σ} {sent : Sent} {response : ResponseId}
    {object : Objection σ} (known : t.errors = some object)
    (fails : ∀ command response, Fails (object command response))
    (ends : t.Ends asked timeout failures spent w sent (.ok response, w')) :
    ∃ r, Wire.Holds w' response r ∧ r.status < 300 := by
  cases ends with
  | answered _ holds fine => exact ⟨_, holds, fine⟩
  | failed _ _ _ _ settles =>
    cases settles with
    | unhandled none => cases known.symm.trans none
    | passed other ended =>
      obtain rfl := Option.some.inj (known.symm.trans other)
      exact absurd ended (fails _ _ _ _ _)

/-- A request is sent at least once, and at most once more than there may be retries. Each send but
the last counted as a failure once, and the last one alone decides: on a good response, on a fault
that is no cut line, and else only where nobody accepts the response or no attempt is left. With an
error handler of the two at hand a failed response is never returned. -/
theorem execute_accounted (t : Transport σ) (steady : t.Steady) {most : Int}
    (limit : t.maxRetries.asNumber? = some (.whole most)) (asked : Request) (timeout : Value)
    (start : World σ) :
    ∃ missed top last, t.Missed asked (t.waiting timeout) start missed top ∧
      ((missed ++ [last]).length : Int) ≤ max 0 most + 1 ∧
      t.Ends asked (t.waiting timeout) missed.length
        (((missed ++ [last]).length : Int) = max 0 most + 1) top last
        ((t.execute asked timeout).play start) ∧
      (t.Silent → (Wired.wire.read ((t.execute asked timeout).play start).2.own).sent =
        (Wired.wire.read start.own).sent ++ (missed ++ [last])) ∧
      ∀ style : ErrorStyle, t.errors = some style.fail → ∀ response after,
        (t.execute asked timeout).play start = (.ok response, after) →
        ∃ r, Wire.Holds after response r ∧ r.status < 300 := by
  have known : t.limit? = some most.toNat := by
    rw [limit?, limit, Option.map_some, Number.floor_whole]
  have begun : t.Missed asked (t.waiting timeout) start [] start := .none
  obtain ⟨missed, top, last, before, few, ends⟩ := steady.accounts_trips most.toNat begun
  have executed : t.execute asked timeout = t.trips asked (t.waiting timeout) most.toNat 0 := by
    rw [execute, known]
  rw [List.length_nil, Nat.zero_add] at few
  rw [List.length_nil, Nat.zero_add, ← executed] at ends
  refine ⟨missed, top, last, before, ?_, ends.mono ?_, ?_, ?_⟩
  · rw [List.length_append, List.length_singleton]
    omega
  · intro spent
    rw [List.length_append, List.length_singleton]
    omega
  · intro silent
    rw [silent.sent_ends ends, silent.sent_missed before, List.append_assoc]
  · intro style handled response after ended
    rw [ended] at ends
    exact ends.status_lt handled style.fails_fail

/-- A transport that tries again where a server is not available. -/
def retrying : Transport Store where
  filters := [fun r => pure (r.withHeader (.text "Accept") (.text "*"))]
  retry := some fun _ response => do return (← Wire.response response).status = 503
  errors := some ErrorStyle.plain.fail
  maxRetries := .int 2
  timeout := .int 5

theorem steady_retrying : retrying.Steady := by
  constructor
  · intro f among r w
    obtain rfl := List.mem_singleton.mp among
    exact ⟨_, _, rfl⟩
  · rintro consult ⟨⟩ command response w
    exact ⟨_, _, rfl⟩

theorem silent_retrying : retrying.Silent := by
  constructor
  · intro f among r
    obtain rfl := List.mem_singleton.mp among
    exact .pure _
  · rintro consult ⟨⟩ command response
    exact .bind (.of_own fun _ => rfl) fun _ => .pure _
  · rintro object ⟨⟩ command response
    exact ErrorStyle.keeps_fail Wire.lenient_sent .plain command response

/-- A server whose line is cut at first, and that is not available afterwards. -/
def faltering : World Store :=
  { clock := 0
    own := { wire := { server := fun
      | 0 => { outcome := .error (.ofKind (.line .connection)) }
      | _ => { outcome := .ok { status := 503 } } } } }

/-- Of three sends the first two count as failures of either kind, and the third one is accepted in
vain. -/
theorem execute_accounted_of_three :
    retrying.Steady ∧ retrying.Silent ∧ retrying.maxRetries.asNumber? = some (.whole 2) ∧
      ∃ missed top last,
        retrying.Missed { endpoint := .text "http://h" } (.int 5) faltering missed top ∧
        (missed ++ [last]).length = 3 ∧
        retrying.Ends { endpoint := .text "http://h" } (.int 5) 2 ((3 : Int) = max 0 2 + 1) top last
          ((retrying.execute { endpoint := .text "http://h" }).play faltering) := by
  obtain ⟨missed, top, last, before, _, ends, record, _⟩ := execute_accounted retrying
    steady_retrying rfl { endpoint := .text "http://h" } .null faltering
  have three : (missed ++ [last]).length = 3 := by
    have computed := congrArg List.length (record silent_retrying)
    rw [List.length_append] at computed
    have started : (Wired.wire.read faltering.own : Wire).sent.length = 0 := rfl
    have ended : (Wired.wire.read ((retrying.execute { endpoint := .text "http://h" }).play
      faltering).2.own : Wire).sent.length = 3 := rfl
    omega
  have two : missed.length = 2 := by
    rw [List.length_append, List.length_singleton] at three
    omega
  rw [three, two] at ends
  exact ⟨steady_retrying, silent_retrying, rfl, missed, top, last, before, three, ends⟩

end Transport

end CloudSession
