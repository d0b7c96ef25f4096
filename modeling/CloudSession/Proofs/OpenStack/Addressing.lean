import CloudSession.Proofs.OpenStack.Amplification
import CloudSession.Proofs.Service.Renewal
import CloudSession.Proofs.Supplier.Ensuring

/-! # Where a request goes and whose token it carries

A path is joined once to the endpoint of the session of the moment, and the url stays the same over
all attempts. Each attempt is signed with the session it comes by: the one of the address, as long
as nobody logged in since, and else one of a later login. So after a renewal the token may be of
another session than the url.
-/

namespace CloudSession

open Act

namespace OpenStack.Service

variable (s : Service)

/-- A login leaves the session alone, unless it has it forgotten. -/
theorem forgets_login : Keeps (Supplier.Forgets Store.sessionSlot) s.login.authenticate := by
  have forgets : Keeps (Supplier.Forgets Store.sessionSlot) s.sessions.invalidate :=
    .of_modifyOwn fun _ => .inl rfl
  exact Login.keeps_authenticate (s.options.kept_client _ _ forgets)
    ⟨fun _ _ => .inr ⟨rfl, rfl⟩, fun _ _ _ => .inr ⟨rfl, rfl⟩⟩

end OpenStack.Service

namespace Course

variable {s : OpenStack.Service} (c : Course (.openstack s)) (first : Session)

/-- The session of the address, or one of a login that took place since. -/
def Had (session : Session) (w : World Store) : Prop :=
  session = first ∨ Supplier.Obtains Store.Onward s.login.authenticate session c.start w

/-- What is sent until the end of the request: logins, and the request with a token it may carry. -/
def Goes (sent : Sent) (w : World Store) : Prop :=
  s.LogsIn sent ∨ ∃ session, c.Had first session w ∧
    sent = c.signed s.options.tokenHeader session.token

/-- On the way from the address the record of what was sent only grows, by what goes out for the
request, and what is remembered is a session that was had. -/
structure Traced (w : World Store) : Prop where
  onward : Store.Onward c.start.own w.own
  memo : ∀ session landed, w.own.sessions.memo = some (session, landed) → c.Had first session w
  sent : ∃ later, w.own.wire.sent = c.start.own.wire.sent ++ later ∧
    ∀ sent ∈ later, c.Goes first sent w

variable {c first} {session : Session} {sent : Sent} {w w' : World Store}

theorem Had.onward (had : c.Had first session w) (onward : Store.Onward w.own w'.own) :
    c.Had first session w' := by
  refine had.imp_right ?_
  rintro ⟨before, after, earlier, logged_in, later⟩
  exact ⟨before, after, earlier, logged_in, trans_of Store.Onward later onward⟩

theorem Goes.onward (goes : c.Goes first sent w) (onward : Store.Onward w.own w'.own) :
    c.Goes first sent w' := by
  refine goes.imp_right ?_
  rintro ⟨session, had, rfl⟩
  exact ⟨session, had.onward onward, rfl⟩

/-- Nothing is sent, and what is remembered was had before. -/
theorem Traced.of_still (traced : c.Traced first w) (sent : w'.own.wire.sent = w.own.wire.sent)
    (server : w'.own.wire.server = w.own.wire.server)
    (memo : ∀ session landed, w'.own.sessions.memo = some (session, landed) →
      c.Had first session w) : c.Traced first w' := by
  have onward : Store.Onward w.own w'.own := .of_same sent server
  obtain ⟨later, record, goes⟩ := traced.sent
  refine ⟨trans_of Store.Onward traced.onward onward, ?_, later, sent.trans record, ?_⟩
  · intro session landed remembered
    exact (memo session landed remembered).onward onward
  · intro sent among
    exact (goes sent among).onward onward

theorem Traced.send (traced : c.Traced first w) (goes : c.Goes first sent w) :
    c.Traced first ((Wire.send sent : Act Store ResponseId).play w).2 := by
  have onward := Wire.keeps_send Store.tolerant_onward.toSendable sent w
  have sessions := Wire.keeps_send (R := Alike Store.sessions)
    ⟨fun _ _ => rfl, fun _ _ _ => rfl⟩ sent w
  obtain ⟨later, record, gone⟩ := traced.sent
  refine ⟨trans_of Store.Onward traced.onward onward, ?_, later ++ [sent], ?_, ?_⟩
  · intro session landed remembered
    rw [show (_ : Store).sessions = w.own.sessions from sessions] at remembered
    exact (traced.memo session landed remembered).onward onward
  · rw [← List.append_assoc, ← record]
    exact Wire.sent_send sent w
  · intro other among
    rcases List.mem_append.mp among with before | own
    · exact (gone other before).onward onward
    · exact List.mem_singleton.mp own ▸ goes.onward onward

theorem lax_traced : Wire.Lax (Retains (c.Traced first)) where
  log _ _ traced := traced.of_still rfl rfl traced.memo
  responses _ _ traced := traced.of_still rfl rfl traced.memo

/-- Forgetting the session and napping leave no trace. -/
theorem leads_retry {filters : List (Filter Store)} :
    ∀ handler, (s.client.withFilters filters).retry = some handler →
      ∀ failures : Nat, handler.Leads (Retains (c.Traced first)) failures := by
  rintro handler ⟨⟩ failures
  refine ⟨?_, ?_⟩
  · exact fun w traced => traced.of_still rfl rfl nofun
  · exact fun _ _ w traced => traced.of_still rfl rfl traced.memo

theorem leads_login : Leads (Retains (c.Traced first)) s.login.authenticate := by
  refine OpenStack.Login.leads_authenticate lax_traced.log fun url known => ?_
  refine ⟨lax_traced, .pure _, ?_, leads_retry⟩
  intro w current w' filtered traced
  cases filtered
  exact traced.send (.inl ⟨url, known, rfl⟩)

theorem ensures_session : Act.Ensures (c.Traced first) s.session
    (fun session w => c.Traced first w ∧ c.Had first session w) (c.Traced first) := by
  have rule : s.sessions.Ensures s.login.authenticate (c.Traced first) (fun _ => c.Traced first)
      (fun session w => c.Traced first w ∧ c.Had first session w) (c.Traced first) := by
    refine ⟨fun _ traced => traced.of_still rfl rfl traced.memo, ?_,
      fun traced _ => traced.of_still rfl rfl traced.memo, ?_,
      fun _ _ traced => traced.of_still rfl rfl traced.memo,
      fun traced => traced.of_still rfl rfl traced.memo⟩
    · intro w session traced served
      obtain ⟨_, landed, _, remembered, _⟩ := Cell.arrive_eq_served_iff.mp served
      exact ⟨traced, traced.memo session landed remembered⟩
    · rintro ticket w ⟨traced, -⟩
      have after := leads_login w traced
      cases played : s.login.authenticate.play w with
      | mk outcome w' =>
        rw [played] at after
        cases outcome with
        | error i => exact after
        | ok session =>
          have had : c.Had first session w' :=
            .inr ⟨w, w', traced.onward, played, refl_of Store.Onward w'.own⟩
          have traced_still : c.Traced first w' := after
          refine ⟨traced_still.of_still rfl rfl ?_, had.onward (.of_same rfl rfl)⟩
          intro remembered landed memo
          rcases Cell.memo_of_land memo with ⟨brought, -⟩ | before
          · exact Option.some.inj brought ▸ had
          · exact traced_still.memo remembered landed before
  exact rule.get none

/-- A filter pass signs with a session that was had. -/
theorem had_of_filter {current : Request} (traced : c.Traced first w)
    (filtered : (s.context.client.filter c.asked).play w = (.ok current, w')) :
    c.Traced first w' ∧ ∃ session, c.Had first session w' ∧
      current = c.asked.withHeader s.options.tokenHeader session.token := by
  obtain ⟨signed, _, filtered, ended⟩ := exists_of_play_bind filtered
  cases ended
  obtain ⟨session, between, gotten, filtered⟩ := exists_of_play_bind filtered
  have ended := ensures_session w traced
  rw [gotten] at ended
  obtain ⟨traced', had⟩ := ended
  have named := eq_some_of_play_demand filtered
  obtain rfl : between = w' := by
    rw [named] at filtered
    cases filtered
    rfl
  refine ⟨traced', session, had, ?_⟩
  rw [Request.withHeader?] at named
  split at named
  · exact (Option.some.inj named).symm
  · cases named

theorem signed_eq (token : Value) :
    c.signed s.options.tokenHeader token =
      ⟨c.asked.withHeader s.options.tokenHeader token, c.seconds, s.options.verify⟩ := by
  have headers : c.asked.headers = c.request.headers := by rw [asked_eq]
  rw [signed, Request.withHeader, headers]
  rfl

theorem leading_context :
    s.context.client.Leading (Retains (c.Traced first)) c.asked c.seconds := by
  refine ⟨lax_traced, ?_, ?_, leads_retry⟩
  · have session : Leads (Retains (c.Traced first)) s.session :=
      ensures_session.leads (fun _ _ => And.left) fun _ => id
    exact .bind (.bind session fun _ => .demand lax_traced.log _ _) fun _ => .pure _
  · intro w current w' filtered traced
    obtain ⟨traced', session, had, rfl⟩ := had_of_filter traced filtered
    exact traced'.send (.inr ⟨session, had, (signed_eq session.token).symm⟩)

/-- What is had by the address is all that may be remembered behind it. -/
theorem traced_start (addressed : s.session.play c.called = (.ok first, c.start)) :
    c.Traced first c.start := by
  have remembered :=
    Supplier.ensures_remembered (s := s.sessions) s.forgets_login none c.called trivial
  rw [show s.sessions.get s.login.authenticate none = s.session from rfl, addressed] at remembered
  exact ⟨refl_of Store.Onward c.start.own,
    fun session landed memo => .inl (remembered session landed memo),
    [], (List.append_nil _).symm, nofun⟩

theorem Traced.of_comes (started : c.Traced first c.start) {failures : Nat}
    (comes : c.Comes failures w) : c.Traced first w := by
  induction comes with
  | first => exact started
  | @again failures limit w w' due _ _ _ passed ih =>
    have kept := leading_context.trip failures w ih
    have passed : (s.context.client.trip c.asked c.seconds failures).play w =
        (.ok (.error due), w') := passed
    rwa [passed] at kept

/-- A path is addressed at the endpoint of the session of the moment. -/
theorem exists_first {path : String} (relative : c.request.endpoint = .text path)
    (below : Context.isAbsolute path = false) :
    ∃ first url, s.session.play c.called = (.ok first, c.start) ∧
      Url.join? (s.endpointOf first) [.text path] = some url ∧
      c.asked = { c.request with endpoint := .text url } := by
  obtain ⟨known, _, demanded, addressed⟩ := exists_of_play_bind c.addressed
  rw [relative] at demanded
  cases demanded
  rw [below, if_neg Bool.false_ne_true] at addressed
  obtain ⟨base, between, based, addressed⟩ := exists_of_play_bind addressed
  obtain ⟨first, _, gotten, named⟩ := exists_of_play_bind based
  cases named
  obtain ⟨url, _, joined, ended⟩ := exists_of_play_bind addressed
  have joins := eq_some_of_play_demand joined
  rw [joins] at joined
  cases joined
  obtain ⟨asked, started⟩ := Prod.mk.inj ended
  exact ⟨first, url, started ▸ gotten, joins, (Except.ok.inj asked).symm⟩

/-- A pass sends the request once, signed with the session it comes by, unless the settings name a
header that can name nothing. -/
theorem sent_pass_of_had (gotten : s.session.play w = (.ok session, w')) (failures : Nat) :
    ((c.pass failures).play w).2.own.wire.sent = w'.own.wire.sent ++
      (if s.options.tokenHeader.isName then [c.signed s.options.tokenHeader session.token]
        else []) := by
  cases named : s.options.tokenHeader.isName with
  | true =>
    have filtered : (s.context.client.filter c.asked).play w =
        (.ok (c.asked.withHeader s.options.tokenHeader session.token), w') := by
      have signed : (OpenStack.sign s.options.tokenHeader s.session c.asked).play w =
          (.ok (c.asked.withHeader s.options.tokenHeader session.token), w') := by
        rw [OpenStack.sign, play_bind_of_ok gotten, Request.withHeader?, named, if_pos rfl,
          play_demand]
      exact play_bind_of_ok signed
    have quiet : ∀ handler, s.context.client.retry = some handler →
        handler.Keeps (Alike fun state : Store => state.wire.sent) := by
      rintro handler ⟨⟩
      exact ⟨.of_modifyOwn fun _ => rfl, trivial⟩
    rw [if_pos rfl, signed_eq]
    exact Client.sent_trip quiet filtered
  | false =>
    rw [if_neg Bool.false_ne_true, List.append_nil]
    have refused : ∃ i log, (s.context.client.filter c.asked).play w =
        (.error i, { w' with log := log }) := by
      have unsigned : ∃ i log, (OpenStack.sign s.options.tokenHeader s.session c.asked).play w =
          (.error i, { w' with log := log }) := by
        rw [OpenStack.sign, play_bind_of_ok gotten, Request.withHeader?, named,
          if_neg Bool.false_ne_true]
        exact ⟨_, _, rfl⟩
      obtain ⟨i, log, failed⟩ := unsigned
      exact ⟨i, log, play_bind_of_error failed⟩
    obtain ⟨i, log, refused⟩ := refused
    have passed : (c.pass failures).play w = (.error i, { w' with log := log }) :=
      Client.play_trip_of_unfiltered refused
    rw [passed]

/-- A path is joined to the endpoint of the session that the context had when it was asked for the
request, and every send of the request goes there. Each carries the token of the session that its
pass came by, which is that first session unless it is one of a login that took place since. Nothing
else is sent but logins. -/
theorem addressed_once (c : Course (.openstack s)) {path : String}
    (relative : c.request.endpoint = .text path) (below : Context.isAbsolute path = false) :
    ∃ first url, s.session.play c.called = (.ok first, c.start) ∧
      Url.join? (s.endpointOf first) [.text path] = some url ∧
      (∀ token, (c.signed s.options.tokenHeader token).request.endpoint = .text url) ∧
      (∀ failures top, c.Comes failures top → ∀ session w,
        s.session.play top = (.ok session, w) → c.Had first session w ∧
          ((c.pass failures).play top).2.own.wire.sent = w.own.wire.sent ++
            (if s.options.tokenHeader.isName then [c.signed s.options.tokenHeader session.token]
              else [])) ∧
      ∃ later, c.outcome.2.own.wire.sent = c.start.own.wire.sent ++ later ∧
        ∀ sent ∈ later, c.Goes first sent c.outcome.2 := by
  obtain ⟨first, url, gotten, joins, addressed⟩ := exists_first relative below
  have started := traced_start gotten
  refine ⟨first, url, gotten, joins, ?_, ?_, ?_⟩
  · intro token
    rw [signed, addressed]
  · intro failures top comes session w had
    have ended := ensures_session top (started.of_comes comes)
    rw [had] at ended
    exact ⟨ended.2, sent_pass_of_had had failures⟩
  · have ended : c.Traced first c.outcome.2 := by
      rw [outcome, Context.request, play_bind_of_ok c.addressed]
      exact leading_context.execute c.start started
    exact ended.sent

/-- A service with settings of the usual kinds. -/
def letting : OpenStack.Service where
  options :=
    { provider := .openstack, endpoint := .text "http://h", identity := .text "u"
      credential := .text "k", apiVersion := .text "1.0", loginEndpoint := .null, verify := .on
      maxRetries := .int 1, retryDelayStart := .int 0, timeout := .int 60
      sessionInterval := .int 60, loginTimeout := .int 10, versionsTimeout := .int 10
      fetchAttempts := 1, leaseMarker := .text "renew", userHeader := .text "X-Auth-User"
      keyHeader := .text "X-Auth-Key", tokenHeader := .text "X-Auth-Token"
      maxPayload := .int 16 }

/-- A server that ends the lease of its first token, and sends whoever logs in again elsewhere. -/
def moving : Nat → Reply
  | 0 => { outcome := .ok { headers :=
      [("X-Auth-Token", "t1"), ("X-Server-Management-Url", "http://a")] } }
  | 1 => { outcome := .ok { status := 401, body := .loaded [114, 101, 110, 101, 119] } }
  | 2 => { outcome := .ok { headers :=
      [("X-Auth-Token", "t2"), ("X-Server-Management-Url", "http://b")] } }
  | _ => { outcome := .ok {} }

def overMove : Course (.openstack letting) where
  request := { endpoint := .text "servers" }
  timeout := .null
  called := { clock := 0, own := { wire := { server := moving } } }
  asked := { endpoint := .text "http://a/servers" }
  start := ((letting.context.address { endpoint := .text "servers" }).play
    { clock := 0, own := { wire := { server := moving } } }).2
  addressed := rfl

/-- What can be told of a send: where it went and what texts its headers hold. -/
def told (sent : Sent) : Option String × List (Option String × Option String) :=
  (sent.request.endpoint.text?,
    sent.request.headers.map fun (name, value) => (name.text?, value.text?))

/-- The first pass is told of the end of the lease. -/
theorem comes_overMove : overMove.Comes 1 ((overMove.pass 0).play overMove.start).2 := by
  have missed : ((overMove.pass 0).play overMove.start).1.toOption.map Except.isOk =
      some false := by decide +kernel
  cases played : ((overMove.pass 0).play overMove.start).1 with
  | error i =>
    rw [played] at missed
    cases missed
  | ok turn =>
    cases turn with
    | ok response =>
      rw [played] at missed
      cases missed
    | error due =>
      have limited : (Service.openstack letting).context.client.limit? = some 1 := by decide +kernel
      have passed : (overMove.pass 0).play overMove.start =
          (.ok (.error due), ((overMove.pass 0).play overMove.start).2) := by rw [← played]
      exact .again .first limited Nat.zero_lt_one passed

/-- The second pass carries the token of the second login to where the first one pointed. -/
theorem addressed_once_over_move :
    overMove.request.endpoint = .text "servers" ∧ Context.isAbsolute "servers" = false ∧
      ∃ first url later, Url.join? (letting.endpointOf first) [.text "servers"] = some url ∧
        url = "http://a/servers" ∧
        overMove.outcome.2.own.wire.sent = overMove.start.own.wire.sent ++ later ∧
        (∀ sent ∈ later, overMove.Goes first sent overMove.outcome.2) ∧
        (later[2]?.map told) = some (some url, [(some "X-Auth-Token", some "t2")]) := by
  obtain ⟨first, url, gotten, joins, _, _, later, record, goes⟩ :=
    addressed_once overMove rfl rfl
  have joined : (letting.session.play overMove.called).1.toOption.map
      (fun first => Url.join? (letting.endpointOf first) [.text "servers"]) =
        some (some "http://a/servers") := by decide +kernel
  rw [gotten] at joined
  obtain rfl : url = "http://a/servers" :=
    Option.some.inj (joins.symm.trans (Option.some.inj joined))
  have before : overMove.start.own.wire.sent.length = 1 := by decide +kernel
  have last : overMove.outcome.2.own.wire.sent[3]?.map told =
      some (some "http://a/servers", [(some "X-Auth-Token", some "t2")]) := by decide +kernel
  rw [record, List.getElem?_append_right (by omega), before] at last
  exact ⟨rfl, rfl, first, _, later, joins, rfl, record, goes, last⟩

/-- It is not so that each pass sends the request to the endpoint of the session that signs it. -/
theorem not_addressed_at_each_pass :
    ¬ ∀ failures top session w, overMove.Comes failures top →
      letting.session.play top = (.ok session, w) →
      ∃ url, Url.join? (letting.endpointOf session) [.text "servers"] = some url ∧
        (((overMove.pass failures).play top).2.own.wire.sent.getLast?.bind
          (·.request.endpoint.text?)) = some url := by
  intro claimed
  let top := ((overMove.pass 0).play overMove.start).2
  have joined : (letting.session.play top).1.toOption.bind
      (fun session => Url.join? (letting.endpointOf session) [.text "servers"]) =
        some "http://b/servers" := by decide +kernel
  have last : ((overMove.pass 1).play top).2.own.wire.sent.getLast?.bind
      (·.request.endpoint.text?) = some "http://a/servers" := by decide +kernel
  cases had : letting.session.play top with
  | mk outcome w =>
    rw [had] at joined
    cases outcome with
    | error i => cases joined
    | ok session =>
      obtain ⟨url, joins, goes⟩ := claimed 1 top session w comes_overMove had
      rw [last] at goes
      cases goes
      have joined : Url.join? (letting.endpointOf session) [.text "servers"] =
        some "http://b/servers" := joined
      rw [joins] at joined
      exact absurd (Option.some.inj joined) (by decide)

end Course

end CloudSession
