import CloudSession.Proofs.Http.Headers
import CloudSession.Proofs.Http.Refusal
import CloudSession.Proofs.OpenStack.Rejection
import CloudSession.Proofs.Service.Keeping
import CloudSession.Proofs.Supplier.Halting
import CloudSession.Service.Operation

/-! # Refused vCloud logins

The three caches of a service look at one latch: where to log in, the session, and the organisations
that are read out of the session. A login that is refused ends whatever asked for it, through each
cache it was asked through, and the latch holds its fault from then on. It makes no difference what
the response says, nor how a token is carried, as long as it can be asked what it says: where the
body is refused as text, nothing is latched.
-/

namespace CloudSession.VCloud.Service

open Act
open OpenStack.Service (Idle)

variable (s : Service)

/-- The logins of a service: posts of its credential. -/
def Logins (request : Request) : Prop := ∃ uri, request = s.login.request uri

/-- A refusal that is told in full to a reader of vCloud messages. -/
abbrev Refuses (r : Response) : Prop := r.Refuses .vcloud

/-- No login was refused, and the latch is open. -/
abbrev Clear : Store → Prop :=
  Wire.Unrefused s.Logins Refuses fun state => state.latch.fault = none

/-- A fault of authorization that the latch holds or will hold, and that tells of the login that was
refused, if one was. -/
structure Doomed (i : FaultId) (w : World Store) : Prop where
  kind : w.log.kind? i = some (.problem .authorization)
  latch : w.own.latch.fault.getD i = i
  last : ∀ n, w.own.wire.Refused s.Logins Refuses n →
    n + 1 = w.own.wire.sent.length ∧ Tells .vcloud n i w

def Sealed (i : FaultId) (w : World Store) : Prop := s.Doomed i w ∧ w.own.latch.fault = some i

variable {s} {w w' : World Store} {i j : FaultId}

theorem Doomed.of_quiet (doomed : s.Doomed i w) (quiet : Wire.Quiet w.own w'.own)
    (known : w'.log.get? i = w.log.get? i) (latch : w'.own.latch.fault.getD i = i) :
    s.Doomed i w' where
  kind := by rw [FaultLog.kind?, known, ← FaultLog.kind?, doomed.kind]
  latch := latch
  last n refused := by
    obtain ⟨last, request, r, fault, answers, entered, tells⟩ :=
      doomed.last n (refused.of_quiet quiet.symm)
    obtain ⟨sent, -⟩ := Prod.mk.inj quiet
    exact ⟨last.trans (congrArg List.length sent.symm), request, r, fault, answers.of_quiet quiet,
      known.trans entered, tells⟩

theorem Sealed.of_idle (shut : s.Sealed i w) (idle : Idle w w') : s.Sealed i w' := by
  obtain ⟨doomed, set⟩ := shut
  obtain ⟨fault, known, -⟩ := Option.map_eq_some_iff.mp doomed.kind
  have still : w'.own.latch.fault = some i := (congrArg Latch.fault idle.latch).trans set
  exact ⟨doomed.of_quiet idle.quiet ((idle.log i fault known).trans known.symm) (by simp [still]),
    still⟩

/-! ## Caches under the latch -/

/-- A cache under the latch of the service halts where its fetch does. -/
theorem halts_supplier {α : Type} {supplier : Supplier Store α} {fetch : Act Store α}
    (latch : supplier.latch = Store.latchSlot)
    (apart : ∀ cell state, (supplier.cell.write cell state).wire = state.wire ∧
      (supplier.cell.write cell state).latch = state.latch)
    (halts : Act.Halts s.Clear s.Doomed fetch) :
    supplier.Halts s.Clear s.Doomed s.Sealed fetch where
  fetch := halts
  unset clear := by
    rw [latch]
    exact clear.2
  authorization doomed := doomed.kind
  tried := by
    intro i w doomed
    have same : w.own.latch.fault.getD i = i := doomed.latch
    rw [Supplier.rejectedWorld, latch]
    simp only [Store.latchSlot, same, FaultLog.arise, if_true]
    constructor
    · refine doomed.of_quiet rfl rfl ?_
      simp only [Latch.fault_trySet, same, Option.getD_some]
    · simp only [Latch.fault_trySet, same]
  recognized := by
    intro i j w clear verdict
    have unset : w.own.latch.fault = none := clear.2
    rw [Supplier.rejectedWorld, latch]
    simp only [Store.latchSlot, unset, Option.getD_none]
    refine ⟨⟨?_, ?_, ?_⟩, ?_⟩
    · rw [FaultLog.kind?_arise, FaultLog.kind?_of_verdict verdict]
    · simp only [Latch.fault_trySet, unset, Option.getD_none, Option.getD_some]
    · intro n refused
      exact absurd refused (clear.1 n)
    · simp only [Latch.fault_trySet, unset, Option.getD_none]
  cell := by
    intro state cell clear
    obtain ⟨wire, held⟩ := apart cell state
    apply clear.of_quiet
    · simp only [Alike, Wired.wire, wire]
    · simp only [held, imp_self]
  landed := by
    rintro i w cell ⟨doomed, set⟩
    obtain ⟨wire, held⟩ := apart cell w.own
    have still : (supplier.cell.write cell w.own).latch.fault = some i := by rw [held, set]
    refine ⟨doomed.of_quiet ?_ rfl (by simp [still]), still⟩
    simp only [Alike, Wired.wire, wire]

/-! ## Clients -/

theorem keeps_invalidate_clear : Keeps (Retains s.Clear) s.invalidate :=
  .bind (.of_modifyOwn fun _ => id) fun _ => .of_modifyOwn fun _ => id

theorem isLogin?_login (uri : Value) :
    (CloudSession.Service.vcloud s).renewal.isLogin? (s.login.request uri) = some true := by
  simp only [CloudSession.Service.renewal]
  cases s.style <;> rfl

/-- Whatever is kept by the order to forget is kept by the handlers of the service. -/
theorem keeps_retry {R : Store → Store → Prop} (keeps : Keeps R s.invalidate) :
    ∀ handler, s.client.retry = some handler → handler.Keeps R := by
  rintro handler ⟨⟩
  exact ⟨keeps, trivial⟩

/-- The fault that tells of the last request spells doom, if that is the first login that was
refused. -/
theorem Doomed.of_send {sent : Sent} {between after : World Store} {response : ResponseId}
    {r : Response} {told : Fault} (clear : s.Clear w.own)
    (played : (Wire.send sent).play w = (.ok response, between))
    (reply : (w.own.wire.server w.own.wire.sent.length).outcome = .ok r)
    (unsent : Wire.Quiet between.own after.own) (unset : after.own.latch.fault = none)
    (known : after.log.get? i = some told)
    (tells : told.toFaultHead = r.refusal .vcloud sent.request) : s.Doomed i after where
  kind := by
    rw [FaultLog.kind?, known, Option.map_some, tells]
    rfl
  latch := by rw [unset, Option.getD_none]
  last := by
    intro n refused
    obtain ⟨record, -⟩ := Prod.mk.inj unsent
    rcases Wire.refused_of_send played (refused.of_quiet unsent.symm) with before | ⟨rfl, -⟩
    · exact absurd before (clear.1 n)
    · have length := congrArg List.length (record.trans (Wire.sent_of_send played))
      rw [List.length_append, List.length_singleton] at length
      exact ⟨length.symm, _, r, told, (Wire.answers_of_send played reply).of_quiet unsent, known,
        tells⟩

/-- A login that is refused is judged to be over by a fault that spells doom. -/
theorem halts_client_of_login (uri : Value) :
    s.client.Halts s.Logins Refuses (fun state => state.latch.fault = none) s.Doomed
      (s.login.request uri) where
  sendable := ⟨fun _ _ => id, fun _ _ _ => id⟩
  filter := .pure _
  retry := keeps_retry keeps_invalidate_clear
  judge := by
    intro w current w' filtered login clear timeout response r between failures played reply refuses
      holds
    cases filtered
    let command : Command := ⟨s.login.request uri, s.login.request uri, failures⟩
    have recognized :
        (CloudSession.Service.vcloud s).renewal.isLogin? command.current = some true :=
      isLogin?_login uri
    obtain ⟨fault, told, after, ended, known, tells⟩ :=
      Client.play_judge_of_refused (c := s.client) rfl rfl recognized holds refuses
    refine ⟨fault, after, ended, ?_⟩
    -- Since the login was sent nothing was written but to its response.
    have judged {R : Store → Store → Prop} [IsPreorder Store R] (lenient : Wire.Lenient R)
        (keeps : Keeps R s.invalidate) : R between.own after.own := by
      have kept := Client.keeps_judge lenient (keeps_retry keeps) command response between
      rwa [ended] at kept
    have unsent : Wire.Quiet between.own after.own :=
      judged Wire.lenient_quiet
        (.bind (.of_modifyOwn fun _ => rfl) fun _ => .of_modifyOwn fun _ => rfl)
    have unlatched : Alike Store.latch between.own after.own :=
      judged (fun _ _ => rfl)
        (.bind (.of_modifyOwn fun _ => rfl) fun _ => .of_modifyOwn fun _ => rfl)
    have unset : after.own.latch.fault = none := by
      have sent := Wire.keeps_send (R := Alike Store.latch) ⟨fun _ _ => rfl, fun _ _ _ => rfl⟩
        ⟨s.login.request uri, timeout, s.client.verify⟩ w
      rw [played] at sent
      rw [show after.own.latch = w.own.latch from unlatched.trans sent, clear.2]
    exact .of_send clear played reply unsent unset known tells

/-- A request that is no login has nothing to end it. -/
theorem halts_client_of_other {asked : Request} (other : ¬ s.Logins asked) :
    s.client.Halts s.Logins Refuses (fun state => state.latch.fault = none) s.Doomed asked where
  sendable := ⟨fun _ _ => id, fun _ _ _ => id⟩
  filter := .pure _
  retry := keeps_retry keeps_invalidate_clear
  judge := by
    intro w current w' filtered login
    cases filtered
    exact absurd login other

/-! ## The caches -/

theorem halts_findLoginUri : Act.Halts s.Clear s.Doomed s.findLoginUri := by
  unfold findLoginUri
  split
  · exact .pure _
  · split
    · exact .of_keeps (.fail _)
    · refine .bind ?_ fun versions => .of_keeps (.grant _)
      refine .bind (.of_keeps (.demand _ _)) fun url => ?_
      have other : ¬ s.Logins { endpoint := .text url } := by
        rintro ⟨uri, same⟩
        cases congrArg Request.headers same
      refine .bind ((halts_client_of_other other).execute _) fun response => .of_keeps ?_
      refine .bind (.of_own fun _ => rfl) fun r => ?_
      split
      · exact .pure _
      · exact .fail _

theorem halts_loginUri : Act.Halts s.Clear s.Sealed s.loginUri :=
  (halts_supplier rfl (fun _ _ => ⟨rfl, rfl⟩) halts_findLoginUri).get none

theorem halts_login : Act.Halts s.Clear s.Doomed s.login.login := by
  apply (halts_loginUri.mono fun _ _ => And.left).bind
  intro uri
  refine .bind ((halts_client_of_login uri).execute _) fun response => .of_keeps ?_
  refine .bind (.of_own fun _ => rfl) fun r => ?_
  split
  · exact .fail _
  · split
    · exact .fail _
    · split
      · exact .fail _
      · exact .fail _
      · exact .bind (.of_own fun _ => rfl) fun _ => .pure _

theorem halts_session : Act.Halts s.Clear s.Sealed s.caches.session :=
  (halts_supplier rfl (fun _ _ => ⟨rfl, rfl⟩) halts_login).get none

theorem halts_orgs : Act.Halts s.Clear s.Sealed s.caches.orgs := by
  have fetch : Act.Halts s.Clear s.Doomed (do return (← s.caches.session).directory) :=
    .bind (halts_session.mono fun _ _ => And.left) fun _ => .pure _
  exact (halts_supplier rfl (fun _ _ => ⟨rfl, rfl⟩) fetch).get none

theorem halts_token : Act.Halts s.Clear s.Sealed s.caches.token :=
  .bind halts_session fun _ => .of_keeps (.grant _)

theorem halts_caches (operation : Caches.Operation) :
    Act.Halts s.Clear s.Sealed (s.caches.perform operation) := by
  cases operation with
  | session => exact .bind halts_session fun _ => .pure _
  | token => exact .bind halts_token fun _ => .pure _
  | orgs => exact .bind halts_orgs fun _ => .pure _
  | orgListUri =>
    exact .bind (.bind halts_session fun _ => .of_keeps (.grant _)) fun _ => .pure _
  | invalidate => exact .of_keeps (.bind keeps_invalidate_clear fun _ => .pure _)

/-! ## Every operation -/

/-- A signed request is no login: it carries what no login carries. -/
theorem not_logins_signed (asked : Request) (token : Value) :
    ¬ s.Logins (asked.withHeader (.text s.style.carrier) token) := by
  rintro ⟨uri, same⟩
  have carried := Headers.get?_put asked.headers s.style.carrier token
  have headers : asked.headers.put (.text s.style.carrier) token =
      (s.login.request uri).headers := by
    rw [← same, Request.withHeader]
  rw [headers] at carried
  cases style : s.style <;> rw [style] at carried <;> cases carried

/-- The context sends no login but for a session. -/
theorem halts_context (asked : Request) :
    s.context.client.Halts s.Logins Refuses (fun state => state.latch.fault = none)
      s.Sealed asked where
  sendable := ⟨fun _ _ => id, fun _ _ _ => id⟩
  filter := .bind (.bind halts_token fun _ => .pure _) fun _ => .pure _
  retry := keeps_retry keeps_invalidate_clear
  judge := by
    intro w current w' filtered login
    obtain ⟨signed, _, filtered, ended⟩ := exists_of_play_bind filtered
    cases ended
    obtain ⟨token, _, _, ended⟩ := exists_of_play_bind filtered
    cases ended
    exact absurd login (not_logins_signed asked _)

theorem halts_request (r : Request) (timeout : Value) :
    Act.Halts s.Clear s.Sealed (s.context.request r timeout) := by
  refine .bind (.of_keeps ?_) fun asked => (halts_context asked).execute timeout
  refine .bind (.demand _ _) fun path => ?_
  split
  · exact .pure r
  · exact .bind (.pure _) fun base => .bind (.demand _ _) fun url => .pure _

theorem halts_within {act : Act Store ResponseId} (halts : Act.Halts s.Clear s.Sealed act) :
    Act.Halts s.Clear s.Sealed (s.context.within act) := by
  apply halts.settling
  intro outcome w
  refine ⟨{ w with own := { w.own with wire := { w.own.wire with
    closed := w.own.wire.closed + 1 } } }, ?_, fun clear => clear.of_quiet rfl id, fun i shut => ?_⟩
  · cases outcome <;> rfl
  · exact shut.of_idle ⟨rfl, rfl, fun _ _ => id⟩

/-- As long as no login was refused, an operation ends at the first one that is, with its fault in
the latch. -/
theorem halts_perform (operation : Operation) :
    Act.Halts s.Clear s.Sealed ((CloudSession.Service.vcloud s).perform operation) := by
  cases operation with
  | request r timeout => exact .bind (halts_request r timeout) fun _ => .pure _
  | requestAndClose r => exact .bind (halts_within (halts_request r .null)) fun _ => .pure _
  | session => exact .bind halts_session fun _ => .pure _
  | endpoint => exact .pure _
  | invalidate => exact .of_keeps (.bind keeps_invalidate_clear fun _ => .pure _)
  | close =>
    exact .of_keeps (.bind (.of_modifyOwn fun _ clear => clear.of_quiet rfl id) fun _ => .pure _)
  | pass seconds => exact .of_keeps (.of_own fun _ => rfl)
  | caches operation =>
    apply (halts_caches operation).bind
    intro answer
    cases answer <;> exact .pure _
  | loginUri => exact .bind halts_loginUri fun _ => .pure _

/-! ## Behind the refusal -/

section

variable (set : w.own.latch.fault = some i)

include set

theorem play_session_of_set : s.caches.session.play w = (.error i, w) :=
  Supplier.play_get_of_set set none

theorem play_caches_of_set {operation : Caches.Operation} (needs : operation ≠ .invalidate) :
    (s.caches.perform operation).play w = (.error i, w) := by
  have session := play_session_of_set (s := s) set
  cases operation with
  | session => exact play_bind_of_error session
  | token => exact play_bind_of_error (play_bind_of_error session)
  | orgs => exact play_bind_of_error (Supplier.play_get_of_set set none)
  | orgListUri => exact play_bind_of_error (play_bind_of_error session)
  | invalidate => exact absurd rfl needs

theorem play_execute_of_set (asked : Request) (timeout : Value) :
    (s.context.client.execute asked timeout).play w = (.error i, w) :=
  Client.play_execute_of_unfiltered
    (play_bind_of_error (play_bind_of_error (play_bind_of_error (play_session_of_set set))))

theorem play_request_of_set {r asked : Request}
    (addressed : (s.context.address r).play w = (.ok asked, w)) (timeout : Value) :
    (s.context.request r timeout).play w = (.error i, w) := by
  rw [Context.request, play_bind_of_ok addressed, play_execute_of_set set]

end

/-- To address a request leaves the world alone, or fails on its own. -/
theorem play_address (s : Service) (r : Request) (w : World Store) :
    (∃ asked, (s.context.address r).play w = (.ok asked, w)) ∨
      ∃ kind, (s.context.address r).play w = (failKind kind : Act Store Request).play w := by
  rw [Context.address]
  cases r.endpoint.text? with
  | none => exact .inr ⟨.attribute, rfl⟩
  | some path =>
    rw [Act.demand, pure_bind]
    split
    · exact .inl ⟨r, rfl⟩
    · cases join : Url.join? s.options.endpoint [.text path] with
      | none =>
        refine .inr ⟨.attribute, ?_⟩
        rw [show s.context.endpoint = pure s.options.endpoint from rfl, pure_bind, join]
        rfl
      | some url =>
        refine .inl ⟨{ r with endpoint := .text url }, ?_⟩
        rw [show s.context.endpoint = pure s.options.endpoint from rfl, pure_bind, join]
        rfl

section

variable (set : w.own.latch.fault = some i)

include set

/-- Once the latch is set a request is not even signed. -/
theorem idle_request (r : Request) (timeout : Value) :
    Idle w ((s.context.request r timeout).play w).2 := by
  rcases play_address s r w with ⟨asked, addressed⟩ | ⟨kind, failed⟩
  · rw [play_request_of_set set addressed]
    exact .refl w
  · rw [Context.request, play_bind_of_error failed]
    exact .fail _ w

theorem idle_caches (operation : Caches.Operation) :
    Idle w ((s.caches.perform operation).play w).2 := by
  by_cases forgets : operation = .invalidate
  · rw [forgets]
    exact ⟨rfl, rfl, fun _ _ => id⟩
  · rw [play_caches_of_set set forgets]
    exact .refl w

theorem idle_perform (operation : Operation) :
    Idle w (((CloudSession.Service.vcloud s).perform operation).play w).2 := by
  cases operation with
  | request r timeout => exact .bind (idle_request set r timeout) fun _ _ => .refl _
  | requestAndClose r =>
    exact .bind (.within s.context (idle_request set r .null)) fun _ _ => .refl _
  | session => exact .bind (.of_error (play_session_of_set set)) fun _ _ => .refl _
  | endpoint => exact .refl w
  | invalidate => exact ⟨rfl, rfl, fun _ _ => id⟩
  | close => exact ⟨rfl, rfl, fun _ _ => id⟩
  | pass seconds => exact ⟨rfl, rfl, fun _ _ => id⟩
  | caches operation =>
    apply Idle.bind (idle_caches set operation)
    intro answer w
    cases answer <;> exact .refl w
  | loginUri => exact .bind (.of_error (Supplier.play_get_of_set set none)) fun _ _ => .refl _

theorem idle_after (later : List Operation) :
    Idle w ((CloudSession.Service.vcloud s).after later w) := by
  induction later generalizing w with
  | nil => exact .refl w
  | cons operation later ih =>
    have idle := idle_perform (s := s) set operation
    exact idle.trans (ih (idle.latch ▸ set))

end

/-- An operation that comes to nothing without a session: all but those that answer on their own,
and requests that have no address. -/
def NeedsSession (s : Service) : Operation → Prop
  | .request r _ | .requestAndClose r =>
    ∃ asked, ∀ w, (s.context.address r).play w = (.ok asked, w)
  | .caches operation => operation ≠ .invalidate
  | .session | .loginUri => True
  | .endpoint | .invalidate | .close | .pass _ => False

theorem play_perform_of_set (set : w.own.latch.fault = some i) {operation : Operation}
    (needs : s.NeedsSession operation) :
    (((CloudSession.Service.vcloud s).perform operation).play w).1 = .error i := by
  cases operation with
  | request r timeout =>
    obtain ⟨asked, addressed⟩ := needs
    have ended := play_request_of_set set (addressed w) timeout
    exact congrArg Prod.fst (play_bind_of_error ended)
  | requestAndClose r =>
    obtain ⟨asked, addressed⟩ := needs
    have closed : (s.context.within (s.context.request r)).play w = (.error i, _) :=
      play_andFinally_of_ok (play_request_of_set set (addressed w) .null) rfl
    exact congrArg Prod.fst (play_bind_of_error closed)
  | session => exact congrArg Prod.fst (play_bind_of_error (play_session_of_set set))
  | caches operation => exact congrArg Prod.fst (play_bind_of_error (play_caches_of_set set needs))
  | loginUri =>
    exact congrArg Prod.fst (play_bind_of_error (Supplier.play_get_of_set set none))
  | endpoint | invalidate | close | pass seconds => cases needs

/-- No login was refused, or the latch is sealed. -/
def Settled (s : Service) (w : World Store) : Prop :=
  (∀ n, ¬ w.own.wire.Refused s.Logins Refuses n) ∨ ∃ i, s.Sealed i w

theorem settled_perform (settled : s.Settled w) (operation : Operation) :
    s.Settled (((CloudSession.Service.vcloud s).perform operation).play w).2 := by
  cases held : w.own.latch.fault with
  | some i =>
    have idle := idle_perform (s := s) held operation
    rcases settled with fair | ⟨i, shut⟩
    · exact .inl fun n refused => fair n (refused.of_quiet idle.quiet.symm)
    · exact .inr ⟨i, shut.of_idle idle⟩
  | none =>
    have fair : ∀ n, ¬ w.own.wire.Refused s.Logins Refuses n := by
      rcases settled with fair | ⟨i, -, set⟩
      · exact fair
      · rw [held] at set
        cases set
    have halted := halts_perform (s := s) operation w ⟨fair, held⟩
    cases played : ((CloudSession.Service.vcloud s).perform operation).play w with
    | mk outcome w' =>
      rw [played] at halted
      cases outcome with
      | ok answer => exact .inl halted.1
      | error i => exact halted.imp And.left fun shut => ⟨i, shut⟩

theorem settled_after (settled : s.Settled w) (operations : List Operation) :
    s.Settled ((CloudSession.Service.vcloud s).after operations w) := by
  induction operations generalizing w with
  | nil => exact settled
  | cons operation operations ih => exact ih (settled_perform settled operation)

/-- What the refusal of the login of a number comes to. -/
structure Final (s : Service) (n : Nat) (i : FaultId) (w : World Store) : Prop where
  /-- The login was sent once: nothing was sent behind it. -/
  last : n + 1 = w.own.wire.sent.length
  latched : w.own.latch.fault = some i
  kind : w.log.kind? i = some (.problem .authorization)
  tells : Tells .vcloud n i w
  /-- Whatever is asked for later, nothing more is sent, and latch and fault stay as they are. -/
  idle : ∀ later, Idle w ((CloudSession.Service.vcloud s).after later w)
  /-- Whatever needs a session ends on that very fault. -/
  refused : ∀ later operation, s.NeedsSession operation →
    (((CloudSession.Service.vcloud s).perform operation).play
      ((CloudSession.Service.vcloud s).after later w)).1 = .error i

/-- However a provider tells where to log in and how it wants the token, whatever its responses say,
as long as they can be asked: a login that is refused at any point of any row of operations is the
end of all requests. -/
theorem login_refused_for_good (s : Service) (start : World Store)
    (fresh : ∀ n, ¬ start.own.wire.Refused s.Logins Refuses n)
    (operations : List Operation) (n : Nat)
    (refused : ((CloudSession.Service.vcloud s).after operations start).own.wire.Refused
      s.Logins Refuses n) :
    ∃ i, s.Final n i ((CloudSession.Service.vcloud s).after operations start) := by
  rcases settled_after (.inl fresh) operations with fair | ⟨i, doomed, set⟩
  · exact absurd refused (fair n)
  · obtain ⟨last, tells⟩ := doomed.last n refused
    refine ⟨i, last, set, doomed.kind, tells, idle_after set, fun later operation needs => ?_⟩
    have idle := idle_after (s := s) set later
    exact play_perform_of_set ((congrArg Latch.fault idle.latch).trans set) needs

/-- A service that asks its provider where to log in, and is to send the token in a header. -/
def discovering : Service where
  options :=
    { provider := .greenHouseData, endpoint := .text "https://h", identity := .text "jsmith"
      credential := .text "qwerty", apiVersion := .text "1.0", loginEndpoint := .null, verify := .on
      maxRetries := .int Defaults.maxRetries, retryDelayStart := .number Defaults.retryDelayStart
      timeout := .int Defaults.httpTimeout, sessionInterval := .int Defaults.sessionInterval
      loginTimeout := .int Defaults.loginTimeout, versionsTimeout := .int Defaults.versionsTimeout
      fetchAttempts := Defaults.fetchAttempts, leaseMarker := .text Defaults.leaseMarker
      userHeader := .text Defaults.userHeader, keyHeader := .text Defaults.keyHeader
      tokenHeader := .text Defaults.tokenHeader, maxPayload := .int Defaults.maxPayloadBytes }
  versions := some fun r => .ok r.versions

/-- A provider that tells where to log in, and refuses the login with a saying that would mean that
something is busy. -/
def refusing : Nat → Reply
  | 0 => { outcome := .ok { versions := some [("1.0", .text "https://h/login")] } }
  | _ => { outcome := .ok { status := 403, headers := [("X-Elastic-Error", "already exists")] } }

/-- The second request is the login, asked for through all three caches. -/
theorem login_refused_for_good_when_discovered :
    let start : World Store := { clock := 0, own := { wire := { server := refusing } } }
    let w := (CloudSession.Service.vcloud discovering).after [.invalidate, .caches .orgs] start
    (∀ n, ¬ start.own.wire.Refused discovering.Logins Refuses n) ∧
      w.own.wire.Refused discovering.Logins Refuses 1 ∧
      ∃ i, discovering.Final 1 i w ∧ (((CloudSession.Service.vcloud discovering).perform
        .session).play ((CloudSession.Service.vcloud discovering).after [.pass 7200] w)).1 =
          .error i :=
  have fresh (n : Nat) :
      ¬ ({ server := refusing } : Wire).Refused discovering.Logins Refuses n := by
    rintro ⟨request, r, answers, -⟩
    have none_sent : (none : Option Request) = some request := answers.sent
    cases none_sent
  have refused := ⟨discovering.login.request (.text "https://h/login"), _, ⟨rfl, rfl⟩, ⟨_, rfl⟩,
    .inr rfl, ⟨_, rfl⟩, .inl ⟨rfl, _, rfl, by decide⟩, fun _ fails => nomatch fails⟩
  have ⟨i, final⟩ :=
    login_refused_for_good discovering _ fresh [.invalidate, .caches .orgs] 1 refused
  ⟨fresh, refused, i, final, final.refused [.pass 7200] .session trivial⟩

/-- A service that is told where to log in. -/
def directed : Service where
  options := { discovering.options with loginEndpoint := .text "https://h/login" }

/-- A refusal whose body is announced to be in the charset of host names. -/
def misnamed : Response where
  status := 401
  body := .loaded [100, 101, 110, 105, 101, 100]
  charset := some "idna"

/-- Where nobody can tell what a refusal says, its login is sent again as soon as a session is asked
for, and the latch stays open. -/
theorem login_sent_again_when_misnamed :
    let start : World Store :=
      { clock := 0, own := { wire := { server := fun _ => { outcome := .ok misnamed } } } }
    let w := (CloudSession.Service.vcloud directed).after [.session, .session] start
    misnamed.status = 401 ∧ (∃ bytes, misnamed.body = .loaded bytes) ∧ misnamed.closeFails = none ∧
      w.own.wire.sent.map (fun sent => (sent.request.method, sent.request.endpoint.display)) =
        [("POST", "https://h/login"), ("POST", "https://h/login")] ∧
      w.own.latch.fault = none :=
  ⟨rfl, ⟨_, rfl⟩, rfl, by decide +kernel, by decide +kernel⟩

end CloudSession.VCloud.Service
