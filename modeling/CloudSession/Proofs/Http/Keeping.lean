import CloudSession.Http.Client
import CloudSession.Proofs.Http.Payload
import CloudSession.Proofs.Keeping

/-! # What transport keeps

Besides sending and napping, transport does nothing to a world but to its log, to the responses at
hand and what handlers and filters do, so a relation that holds over those holds over all of it. A
relation between states does not see the clock and the log either.
-/

namespace CloudSession

open Act

variable {σ α : Type} [Wired σ]

namespace Wire

/-- A relation on worlds that minds neither the log nor what becomes of the responses at hand. -/
structure Lax (R : World σ → World σ → Prop) : Prop where
  log : LogFree R
  responses : ∀ w responses, R w { w with
    own := Wired.wire.write { Wired.wire.read w.own with responses := responses } w.own }

/-- A relation on worlds that minds neither the log nor what is left of the body of a response. -/
structure Readable (R : World σ → World σ → Prop) : Prop where
  log : LogFree R
  body : ∀ w i r, (Wired.wire.read w.own).responses[i]? = some r →
    ∀ body, R w (withResponse w i { r with body := body })

theorem Lax.readable {R : World σ → World σ → Prop} (lax : Lax R) : Readable R where
  log := lax.log
  body w _ _ _ _ := lax.responses w _

/-- A relation that does not mind what becomes of the responses at hand. -/
def Lenient (R : σ → σ → Prop) : Prop :=
  ∀ s responses, R s (Wired.wire.write { Wired.wire.read s with responses := responses } s)

/-- A relation that does not mind what is sent either. -/
structure Sendable (R : σ → σ → Prop) : Prop where
  lenient : Lenient R
  send : ∀ s sent responses, R s (Wired.wire.write { Wired.wire.read s with
    sent := (Wired.wire.read s).sent ++ [sent], responses := responses } s)

theorem Lenient.lax {R : σ → σ → Prop} [IsPreorder σ R] (lenient : Lenient R) : Lax (OnOwn R) where
  log := .onOwn
  responses w responses := lenient w.own responses

theorem keeps_send {R : σ → σ → Prop} (sendable : Sendable R) (sent : Sent) :
    Keeps R (send sent : Act σ ResponseId) := by
  intro w
  cases answer : ((Wired.wire.read w.own).server (Wired.wire.read w.own).sent.length).outcome with
  | ok response =>
    rw [play_send_of_ok answer]
    exact sendable.send w.own sent _
  | error plan =>
    rw [play_send_of_error answer]
    exact sendable.send w.own sent _

theorem lenient_sent : Lenient (Alike fun s : σ => (Wired.wire.read s).sent) := by
  intro s responses
  simp only [Alike, Slot.read_write]

variable {R : World σ → World σ → Prop}

theorem leads_setResponse (lax : Lax R) (i : ResponseId) (r : Response) :
    Leads R (setResponse i r) :=
  fun w => lax.responses w _

variable [IsPreorder (World σ) R]

section

variable (readable : Readable R)

include readable

/-- Only the body of a response is another once it was read. -/
theorem Readable.withResponse (w : World σ) (i : ResponseId) {after : Response}
    (read : ∃ body, after =
      { (Wired.wire.read w.own : Wire).responses[i]?.getD {} with body := body }) :
    R w (Wire.withResponse w i after) := by
  obtain ⟨body, rfl⟩ := read
  cases here : (Wired.wire.read w.own : Wire).responses[i]? with
  | some r => exact readable.body w i r here body
  | none =>
    have absent := Array.getElem?_eq_none_iff.mp here
    rw [Wire.withResponse, Array.setIfInBounds, dif_neg (by omega), Slot.write_read]
    exact refl_of R w

/-- A body that cannot be read either counts as none or fails. -/
theorem leads_unreadable (plan : FaultPlan) : Leads R (do
    let fault ← Act.plan plan
    if ← Act.is FaultKind.isReadFailure fault then return none else throw fault :
      Act σ (Option String)) := by
  refine .bind (.plan readable.log plan) fun fault => .bind (.of_same fun _ => rfl) fun unread => ?_
  cases unread with
  | true => exact .pure none
  | false => exact .throw fault

theorem leads_settleRead {α : Type} (reading : Except ReadFailure α) :
    Leads R (settleRead reading : Act σ α) := by
  cases reading with
  | ok a => exact .pure a
  | error failure => exact .bind (.plan readable.log failure.plan) fun fault => .throw fault

theorem leads_readPayload (i : ResponseId) (limit : Value) : Leads R (readPayload i limit) := by
  intro w
  have taken := Response.exists_takeUpTo_snd
    ((Wired.wire.read w.own : Wire).responses[i]?.getD {}) limit
  rw [readPayload, play_bind_of_ok (play_response i w)]
  generalize Response.takeUpTo _ limit = read at taken ⊢
  obtain ⟨result, after⟩ := read
  rw [play_bind_of_ok (play_setResponse i after w)]
  refine trans_of R (readable.withResponse w i taken) ?_
  cases result with
  | ok bytes =>
    have settled (reading : Except ReadFailure String) :
        Leads R (do return some (← settleRead reading) : Act σ (Option String)) :=
      .bind (leads_settleRead readable reading) fun text => .pure (some text)
    exact settled _ _
  | error failure => exact leads_unreadable readable failure.plan _

theorem leads_readText (i : ResponseId) : Leads R (readText i) := by
  intro w
  have taken := Response.exists_text_snd ((Wired.wire.read w.own : Wire).responses[i]?.getD {})
  rw [readText, play_bind_of_ok (play_response i w)]
  generalize Response.text _ = read at taken ⊢
  obtain ⟨result, after⟩ := read
  rw [play_bind_of_ok (play_setResponse i after w)]
  refine trans_of R (readable.withResponse w i taken) ?_
  cases result with
  | ok s => exact Leads.pure _ _
  | error failure => exact leads_unreadable readable failure.plan _

end

theorem leads_release (lax : Lax R) (i : ResponseId) : Leads R (release i) := by
  refine .bind (.of_same fun _ => rfl) fun r => .bind (leads_setResponse lax i _) fun _ => ?_
  cases r.closeFails with
  | none => exact .pure ()
  | some plan =>
    refine .bind (.plan lax.log plan) fun fault => .bind (.of_same fun _ => rfl) fun swallowed => ?_
    cases swallowed with
    | true => exact .pure ()
    | false => exact .throw fault

end Wire

/-- The seconds of the nap after some failures and one more, if there is one. -/
def Backoff.nap? (b : Backoff) (failures : Int) : Option Float := do
  let limit ← b.limit.asNumber?
  if limit.lt (.whole (failures + 1)) then none
  else (← (b.delay (failures + 1)).toOption).toFloat?

namespace RetryHandler

/-- A handler that leads to related worlds when it forgets, or naps after some failures. -/
def Leads (R : World σ → World σ → Prop) (failures : Int) : RetryHandler σ → Prop
  | .decline => True
  | .renew _ invalidate => Act.Leads R invalidate
  | .backoff b => ∀ x, b.nap? failures = some x →
    ∀ w, R w { w with naps := w.naps ++ [x], clock := w.clock + x }
  | .delegating client server => client.Leads R failures ∧ server.Leads R failures

/-- A handler whose orders to forget keep a relation. -/
def Keeps (R : σ → σ → Prop) : RetryHandler σ → Prop
  | .decline => True
  | .renew _ invalidate => Act.Keeps R invalidate
  | .backoff _ => True
  | .delegating client server => client.Keeps R ∧ server.Keeps R

omit [Wired σ] in
theorem Keeps.mono {R R' : σ → σ → Prop} {handler : RetryHandler σ} (keeps : handler.Keeps R)
    (related : ∀ s t, R s t → R' s t) : handler.Keeps R' := by
  induction handler with
  | decline => trivial
  | renew renewal invalidate => exact Act.Keeps.mono keeps related
  | backoff b => trivial
  | delegating client server ofClient ofServer => exact ⟨ofClient keeps.1, ofServer keeps.2⟩

omit [Wired σ] in
theorem Keeps.leads {R : σ → σ → Prop} [IsPreorder σ R] {handler : RetryHandler σ}
    (keeps : handler.Keeps R) (failures : Int) : handler.Leads (OnOwn R) failures := by
  induction handler with
  | decline => trivial
  | renew renewal invalidate => exact keeps
  | backoff b => exact fun _ _ w => refl_of R w.own
  | delegating client server ofClient ofServer => exact ⟨ofClient keeps.1, ofServer keeps.2⟩

variable {R : World σ → World σ → Prop} [IsPreorder (World σ) R]

section

variable (readable : Wire.Readable R)

include readable

theorem leads_renewIfMarked (renewal : Renewal) {invalidate : Act σ Unit}
    (leads : Act.Leads R invalidate) (command : Command) (response : ResponseId) :
    Act.Leads R (renewIfMarked renewal invalidate command response) := by
  refine .bind (.of_same fun _ => rfl) fun r => ?_
  split
  · exact .pure false
  · refine .bind (.demand readable.log _ _) fun login => ?_
    cases login with
    | true => exact .pure false
    | false =>
      refine .bind (Wire.leads_readPayload readable response _) fun body => ?_
      refine .bind (.demand readable.log _ _) fun marked => ?_
      cases marked with
      | true => exact .bind leads fun _ => .pure true
      | false => exact .pure false

omit [IsPreorder (World σ) R] in
theorem leads_nap {seconds : Number}
    (naps : ∀ x, seconds.toFloat? = some x →
      ∀ w, R w { w with naps := w.naps ++ [x], clock := w.clock + x }) :
    Act.Leads R (nap seconds : Act σ Unit) := by
  unfold nap
  split
  · exact .fail readable.log _
  · rename_i x known
    exact .nap readable.log (naps x known)

theorem leads_napIfTransient {b : Backoff} (command : Command)
    (leads : (backoff b : RetryHandler σ).Leads R command.failures) (response : ResponseId) :
    Act.Leads R (napIfTransient b command response : Act σ Bool) := by
  refine .bind (.of_same fun _ => rfl) fun r => .bind (.demand readable.log _ _) fun transient => ?_
  cases transient with
  | false => exact .pure false
  | true =>
    refine fun w => Leads.bindFrom (Leads.demand readable.log _ _ w) fun limit w' had => ?_
    have limited := eq_some_of_play_demand had
    split
    · exact refl_of R w'
    · rename_i within
      cases delay : b.delay (command.failures + 1) with
      | error kind => exact readable.log w' _
      | ok seconds =>
        have naps : Act.Leads R (nap seconds : Act σ Unit) := by
          refine leads_nap readable fun x worth => leads x ?_
          rw [Backoff.nap?, limited, delay]
          exact (if_neg within).trans worth
        exact Leads.bind naps (fun _ => .pure true) w'

end

theorem leads_shouldRetry (lax : Wire.Lax R) {handler : RetryHandler σ} (command : Command)
    (leads : handler.Leads R command.failures) (response : ResponseId) :
    Act.Leads R (handler.shouldRetry command response) := by
  induction handler with
  | decline => exact .bind (Wire.leads_release lax response) fun _ => .pure false
  | renew renewal invalidate =>
    exact .andFinally lax.log (leads_renewIfMarked lax.readable renewal leads command response)
      (Wire.leads_release lax response)
  | backoff b =>
    exact .andFinally lax.log (leads_napIfTransient lax.readable command leads response)
      (Wire.leads_release lax response)
  | delegating client server ofClient ofServer =>
    refine .bind (.of_same fun _ => rfl) fun r => ?_
    dsimp only
    split
    · exact ofClient leads.1
    · split
      · exact ofServer leads.2
      · exact .bind (Wire.leads_release lax response) fun _ => .pure false

end RetryHandler

namespace ErrorStyle

section

variable {R : World σ → World σ → Prop} [IsPreorder (World σ) R] (readable : Wire.Readable R)

include readable

theorem leads_message (style : ErrorStyle) (response : ResponseId) :
    Leads R (style.message response : Act σ (Option String)) := by
  have body : Leads R (bodyMessage response : Act σ (Option String)) :=
    .bind (Wire.leads_readText readable response) fun _ => .pure _
  cases style with
  | plain => exact body
  | vcloud =>
    refine .bind (.of_same fun _ => rfl) fun r => ?_
    split
    · exact .pure _
    · exact body

theorem leads_failByStatus (style : ErrorStyle) (command : Command) (response : ResponseId) :
    Leads R (style.failByStatus command response : Act σ α) :=
  .bind (leads_message readable style response) fun _ =>
    .bind (.of_same fun _ => rfl) fun _ => .fail readable.log _

theorem leads_fail (style : ErrorStyle) (command : Command) (response : ResponseId) :
    Leads R (style.fail command response : Act σ α) := by
  cases style with
  | plain => exact leads_failByStatus readable .plain command response
  | vcloud =>
    refine .bind (leads_message readable .vcloud response) fun message => ?_
    refine .bind (.of_same fun _ => rfl) fun r => ?_
    cases message with
    | none => exact leads_failByStatus readable .vcloud command response
    | some m =>
      dsimp only
      split
      · exact .fail readable.log _
      · exact leads_failByStatus readable .vcloud command response

end

theorem keeps_fail {R : σ → σ → Prop} [IsPreorder σ R] (lenient : Wire.Lenient R)
    (style : ErrorStyle) (command : Command) (response : ResponseId) :
    Keeps R (style.fail command response : Act σ α) :=
  leads_fail lenient.lax.readable style command response

end ErrorStyle

omit [Wired σ] in
theorem Transport.leads_filter {R : World σ → World σ → Prop} [IsPreorder (World σ) R]
    {t : Transport σ} (filters : ∀ f ∈ t.filters, ∀ r, Leads R (f r)) (r : Request) :
    Leads R (t.filter r) := by
  have each : ∀ filters : List (Filter σ), (∀ f ∈ filters, f ∈ t.filters) → ∀ r,
      Leads R (filters.foldlM (fun r f => f r) r) := by
    intro rest
    induction rest with
    | nil =>
      intro _ r
      exact .pure r
    | cons f rest ih =>
      intro among r
      rw [List.foldlM_cons]
      refine .bind (filters f (among f List.mem_cons_self) r) ?_
      exact ih fun g later => among g (List.mem_cons_of_mem f later)
  exact each t.filters (fun _ => id) r

omit [Wired σ] in
theorem Transport.keeps_filter {R : σ → σ → Prop} [IsPreorder σ R] {t : Transport σ}
    (filters : ∀ f ∈ t.filters, ∀ r, Keeps R (f r)) (r : Request) : Keeps R (t.filter r) :=
  leads_filter (R := OnOwn R) filters r

namespace Client

variable {c : Client σ} {asked : Request}

/-! ## Worlds -/

section

variable {R : World σ → World σ → Prop}

/-- What it takes of a client to lead to related worlds when it is asked for a request. -/
structure Leading (R : World σ → World σ → Prop) (c : Client σ) (asked : Request)
    (timeout : Value) : Prop where
  lax : Wire.Lax R
  filter : Leads R (c.filter asked)
  send : ∀ {w current w'}, (c.filter asked).play w = (.ok current, w') →
    R w ((Wire.send ⟨current, timeout, c.verify⟩ : Act σ ResponseId).play w').2
  retry : ∀ handler, c.retry = some handler → ∀ failures : Nat, handler.Leads R failures

variable [IsPreorder (World σ) R]

section

variable (readable : Wire.Readable R)

include readable

theorem leads_conclude (command : Command) (response : ResponseId) :
    Leads R (c.conclude command response) := by
  rw [conclude_eq]
  split
  · exact .pure response
  · exact .bind (ErrorStyle.leads_fail readable _ command response) fun _ => .pure response

theorem leads_giveUp (due : Due) : Leads R (c.giveUp due) := by
  cases due with
  | cut i => exact .throw i
  | accepted command response => exact leads_conclude readable command.failed response

theorem leads_loseCount (due : Due) : Leads R (Transport.loseCount due : Act σ ResponseId) := by
  cases due with
  | cut i => exact .bind (fun w => readable.log w _) fun j => .failWhile readable.log i j
  | accepted command response => exact .fail readable.log _

end

section

variable (lax : Wire.Lax R)

include lax

variable (command : Command)
variable (retry : ∀ handler, c.retry = some handler → handler.Leads R command.failures)

include retry

theorem leads_accepts (response : ResponseId) :
    Leads R (c.accepts command response) := by
  rw [accepts_eq]
  split
  · exact .pure false
  · rename_i handler here
    exact RetryHandler.leads_shouldRetry lax command (retry handler here) response

/-- Nothing is sent once there is a response. -/
theorem leads_judge (response : ResponseId) :
    Leads R (c.judge command response) := by
  refine .bind (.of_same fun _ => rfl) fun r => ?_
  split
  · exact .pure _
  · refine .bind (leads_accepts lax command retry response) fun accepted => ?_
    cases accepted with
    | true => exact .pure _
    | false => exact .bind (leads_conclude lax.readable command response) fun _ => .pure _

end

/-- What follows an attempt. -/
theorem behind_trip {timeout : Value} (failures : Nat) {next : Due → Act σ ResponseId}
    (leads : ∀ due, Leads R (next due)) (w : World σ) :
    R ((c.trip asked timeout failures).play w).2
      ((c.tripThen asked timeout failures next).play w).2 := by
  refine Leads.behind (fun outcome => ?_) w
  cases outcome with
  | ok response => exact .pure response
  | error due => exact leads due

section

variable {timeout : Value} (leading : c.Leading R asked timeout)

include leading

theorem Leading.trip (failures : Nat) : Leads R (c.trip asked timeout failures) := by
  intro w
  have before := leading.filter w
  rw [trip_eq]
  cases filtered : (c.filter asked).play w with
  | mk outcome w' =>
    rw [filtered] at before
    cases outcome with
    | error i =>
      rw [play_bind_of_error filtered]
      exact before
    | ok current =>
      rw [play_bind_of_ok filtered, play_bind_of_ok (play_attempt _ w')]
      refine trans_of R (leading.send filtered) ?_
      cases ((Wire.send ⟨current, timeout, c.verify⟩ : Act σ ResponseId).play w').1 with
      | ok response =>
        exact leads_judge leading.lax _
          (fun handler here => leading.retry handler here failures) response _
      | error i =>
        dsimp only
        rw [play_bind_of_ok (play_is _ _ _)]
        split <;> exact refl_of R _

theorem Leading.tripThen (failures : Nat) {next : Due → Act σ ResponseId}
    (leads : ∀ due, Leads R (next due)) : Leads R (c.tripThen asked timeout failures next) :=
  fun w => trans_of R (leading.trip failures w) (behind_trip failures leads w)

theorem Leading.trips (left failures : Nat) : Leads R (c.trips asked timeout left failures) := by
  induction left generalizing failures with
  | zero => exact leading.tripThen failures (leads_giveUp leading.lax.readable)
  | succ left ih => exact leading.tripThen failures fun _ => ih (failures + 1)

end

section

variable {timeout : Value} (leading : c.Leading R asked (c.waiting timeout))

include leading

/-- A request passes through its filters first of all. -/
theorem Leading.behind_first_trip (w : World σ) :
    R ((c.trip asked (c.waiting timeout) 0).play w).2 ((c.execute asked timeout).play w).2 := by
  rw [execute_eq]
  split
  · rename_i limit known
    cases limit with
    | zero => exact behind_trip 0 (leads_giveUp leading.lax.readable) w
    | succ left => exact behind_trip 0 (fun _ => leading.trips left 1) w
  · exact behind_trip 0 (leads_loseCount leading.lax.readable) w

theorem Leading.execute : Leads R (c.execute asked timeout) :=
  fun w => trans_of R (leading.trip 0 w) (leading.behind_first_trip w)

end

end

/-! ## States -/

variable {R : σ → σ → Prop}

/-- A client whose handler and filters keep a relation. -/
structure Kept (R : σ → σ → Prop) (c : Client σ) : Prop where
  retry : ∀ handler, c.retry = some handler → handler.Keeps R
  filters : ∀ f ∈ c.filters, ∀ r, Keeps R (f r)

omit [Wired σ] in
/-- A client that has one more filter. -/
theorem Kept.withFilter (kept : c.Kept R) {f : Filter σ} (keeps : ∀ r, Keeps R (f r)) :
    (c.withFilters [f]).Kept R where
  retry := kept.retry
  filters g member := by
    rcases List.mem_append.mp member with before | own
    · exact kept.filters g before
    · exact List.mem_singleton.mp own ▸ keeps

variable [IsPreorder σ R]

theorem keeps_giveUp (lenient : Wire.Lenient R) (due : Due) : Keeps R (c.giveUp due) :=
  leads_giveUp lenient.lax.readable due

/-- Nothing is sent once there is a response. -/
theorem keeps_judge (lenient : Wire.Lenient R)
    (retry : ∀ handler, c.retry = some handler → handler.Keeps R) (command : Command)
    (response : ResponseId) : Keeps R (c.judge command response) :=
  leads_judge lenient.lax command (fun handler here => (retry handler here).leads _) response

variable (kept : c.Kept R) (sendable : Wire.Sendable R)

include kept

theorem Kept.filter (r : Request) : Keeps R (c.filter r) := Transport.keeps_filter kept.filters r

include sendable

theorem Kept.leading (asked : Request) (timeout : Value) :
    c.Leading (OnOwn R) asked timeout where
  lax := sendable.lenient.lax
  filter := kept.filter asked
  send {w _ w'} filtered := by
    have before := kept.filter asked w
    rw [filtered] at before
    exact trans_of R before (Wire.keeps_send sendable _ w')
  retry handler here failures := (kept.retry handler here).leads failures

theorem Kept.trip (asked : Request) (timeout : Value) (failures : Nat) :
    Keeps R (c.trip asked timeout failures) :=
  (kept.leading sendable asked timeout).trip failures

theorem Kept.execute (request : Request) (timeout : Value) :
    Keeps R (c.execute request timeout) :=
  (kept.leading sendable request (c.waiting timeout)).execute

end Client

end CloudSession
