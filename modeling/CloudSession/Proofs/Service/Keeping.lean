import CloudSession.Proofs.Http.Keeping
import CloudSession.Proofs.Supplier.Alone
import CloudSession.Service.Kinds

/-! # What services keep

A service writes what it sends and gets, the latch and its cells, each in a place of its own. A
relation that minds none of these is kept by all that a context does.
-/

namespace CloudSession

open Act

/-- A relation that minds nothing that a service writes. -/
structure Store.Tolerant (R : Store → Store → Prop) : Prop extends Wire.Sendable R where
  latch : ∀ s latch, R s { s with latch := latch }
  sessions : ∀ s cell, R s { s with sessions := cell }
  orgMaps : ∀ s cell, R s { s with orgMaps := cell }
  loginUris : ∀ s cell, R s { s with loginUris := cell }

/-- From one store to a later one the record of what was sent only grows, and the server stays. -/
structure Store.Onward (s t : Store) : Prop where
  sent : s.wire.sent <+: t.wire.sent
  server : t.wire.server = s.wire.server

namespace Store

theorem Onward.of_same {s t : Store} (sent : t.wire.sent = s.wire.sent)
    (server : t.wire.server = s.wire.server) : Onward s t :=
  ⟨sent ▸ List.prefix_rfl, server⟩

instance : IsPreorder Store Onward where
  refl _ := .of_same rfl rfl
  trans _ _ _ first second :=
    ⟨first.sent.trans second.sent, second.server.trans first.server⟩

theorem tolerant_onward : Tolerant Onward where
  lenient _ _ := .of_same rfl rfl
  send _ _ _ := ⟨List.prefix_append _ _, rfl⟩
  latch _ _ := .of_same rfl rfl
  sessions _ _ := .of_same rfl rfl
  orgMaps _ _ := .of_same rfl rfl
  loginUris _ _ := .of_same rfl rfl

end Store

variable {R : Store → Store → Prop}

theorem ServiceOptions.kept_client (o : ServiceOptions) (renewal : Renewal)
    {invalidate : Act Store Unit} (errors : ErrorStyle) (keeps : Keeps R invalidate) :
    (o.client renewal invalidate errors).Kept R where
  retry := by
    rintro handler ⟨⟩
    exact ⟨keeps, trivial⟩
  filters f member := by cases member

theorem OpenStack.Login.leads_authenticate {R : World Store → World Store → Prop}
    [IsPreorder (World Store) R] {l : OpenStack.Login Store} (logs : LogFree R)
    (leading : ∀ url, l.url? = some url →
      l.client.Leading R (l.request url) (l.client.waiting l.timeout)) :
    Leads R l.authenticate := by
  intro w
  refine Leads.bindFrom (Leads.demand logs _ _ w) fun url w' had => ?_
  refine Leads.bind ((leading url (eq_some_of_play_demand had)).execute) (fun response => ?_) w'
  refine .bind (.of_same fun _ => rfl) fun r => ?_
  split
  · exact .fail logs _
  · exact .bind (.of_same fun _ => rfl) fun _ => .pure _

theorem OpenStack.Login.keeps_authenticate [IsPreorder Store R] {l : OpenStack.Login Store}
    (kept : l.client.Kept R) (sendable : Wire.Sendable R) : Keeps R l.authenticate :=
  leads_authenticate .onOwn fun url _ => kept.leading sendable (l.request url) _

theorem VCloud.Login.leads_loginAt {R : World Store → World Store → Prop}
    [IsPreorder (World Store) R] {l : VCloud.Login Store} (logs : LogFree R) {uri : Value}
    (leading : l.client.Leading R (l.request uri) (l.client.waiting l.timeout)) :
    Leads R (l.loginAt uri) := by
  refine .bind leading.execute fun response => .bind (.of_same fun _ => rfl) fun r => ?_
  split
  · exact .fail logs _
  · split
    · exact .fail logs _
    · split
      · exact .fail logs _
      · exact .fail logs _
      · exact .bind (.of_same fun _ => rfl) fun _ => .pure _

namespace VCloud.Service

/-- What it takes of a relation to be kept by the requests of a service itself. -/
structure Requesting (R : Store → Store → Prop) (s : Service) : Prop where
  sendable : Wire.Sendable R
  invalidate : Keeps R s.invalidate

/-- What it takes of a relation to be kept by all that a service does: each cache keeps it as long
as its fetch does. -/
structure Caching (R : Store → Store → Prop) (s : Service) : Prop extends Requesting R s where
  loginUri : Keeps R s.findLoginUri → Keeps R s.loginUri
  session : Keeps R s.login.login → Keeps R s.caches.session
  orgs : Keeps R (do return (← s.caches.session).directory) → Keeps R s.caches.orgs

theorem Requesting.kept_client {s : Service} (requesting : s.Requesting R) : s.client.Kept R :=
  s.options.kept_client _ _ requesting.invalidate

theorem leads_findLoginUri {R : World Store → World Store → Prop} [IsPreorder (World Store) R]
    {s : Service} (logs : LogFree R)
    (leading : ∀ url timeout, s.client.Leading R { endpoint := .text url } timeout) :
    Leads R s.findLoginUri := by
  unfold findLoginUri
  split
  · exact .pure _
  · split
    · exact .fail logs _
    · refine .bind ?_ fun versions => .grant logs _
      refine .bind (.demand logs _ _) fun url => ?_
      refine .bind (leading url _).execute fun response => ?_
      refine .bind (.of_same fun _ => rfl) fun r => ?_
      split
      · exact .pure _
      · exact .fail logs _

variable [IsPreorder Store R] {s : Service}

theorem Requesting.keeps_findLoginUri (requesting : s.Requesting R) : Keeps R s.findLoginUri :=
  leads_findLoginUri .onOwn fun _ _ => requesting.kept_client.leading requesting.sendable _ _

variable (caching : s.Caching R)

include caching

theorem Caching.keeps_loginUri : Keeps R s.loginUri := caching.loginUri caching.keeps_findLoginUri

theorem Caching.keeps_login : Keeps R s.login.login :=
  .bind caching.keeps_loginUri fun uri => Login.leads_loginAt .onOwn
    (caching.kept_client.leading caching.sendable (s.login.request uri) _)

theorem Caching.keeps_session : Keeps R s.caches.session := caching.session caching.keeps_login

theorem Caching.keeps_orgs : Keeps R s.caches.orgs :=
  caching.orgs (.bind caching.keeps_session fun _ => .pure _)

theorem Caching.keeps_token : Keeps R s.caches.token :=
  .bind caching.keeps_session fun _ => .grant _

theorem Caching.kept_context : s.context.client.Kept R :=
  caching.kept_client.withFilter fun _ => .bind caching.keeps_token fun _ => .pure _

end VCloud.Service

variable (tolerant : Store.Tolerant R)

include tolerant

namespace OpenStack.Service

variable (s : Service)

theorem kept_client : s.client.Kept R :=
  s.options.kept_client _ _ (.of_modifyOwn fun state => tolerant.sessions state _)

variable [IsPreorder Store R]

theorem keeps_login : Keeps R s.login.authenticate :=
  Login.keeps_authenticate (s.kept_client tolerant) tolerant.toSendable

theorem kept_sessions : s.sessions.Kept R s.login.authenticate where
  cell cell state := tolerant.sessions state cell
  latch _ state := tolerant.latch state _
  fetch w _ := s.keeps_login tolerant w

theorem keeps_session : Keeps R s.session := (s.kept_sessions tolerant).get none

theorem keeps_endpoint : Keeps R s.computeEndpoint :=
  .bind (s.keeps_session tolerant) fun _ => .pure _

end OpenStack.Service

namespace VCloud.Service

variable [IsPreorder Store R] (s : Service)

theorem caching_of_tolerant : s.Caching R where
  sendable := tolerant.toSendable
  invalidate :=
    .bind (.of_modifyOwn fun state => tolerant.sessions state _) fun _ =>
      .of_modifyOwn fun state => tolerant.orgMaps state _
  loginUri keeps :=
    Supplier.Kept.get (s := s.loginUris) ⟨fun cell state => tolerant.loginUris state cell,
      fun _ state => tolerant.latch state _, fun w _ => keeps w⟩ none
  session keeps :=
    Supplier.Kept.get (s := s.sessions) ⟨fun cell state => tolerant.sessions state cell,
      fun _ state => tolerant.latch state _, fun w _ => keeps w⟩ none
  orgs keeps :=
    Supplier.Kept.get (s := s.orgMaps) ⟨fun cell state => tolerant.orgMaps state cell,
      fun _ state => tolerant.latch state _, fun w _ => keeps w⟩ none

theorem kept_sessions : s.sessions.Kept R s.login.login where
  cell cell state := tolerant.sessions state cell
  latch _ state := tolerant.latch state _
  fetch w _ := (s.caching_of_tolerant tolerant).keeps_login w

end VCloud.Service

namespace Service

variable [IsPreorder Store R] (s : Service)

theorem keeps_session : Keeps R s.context.session := by
  cases s with
  | openstack s => exact s.keeps_session tolerant
  | vcloud s => exact (s.caching_of_tolerant tolerant).keeps_session

theorem keeps_address (r : Request) : Keeps R (s.context.address r) := by
  have endpoint : Keeps R s.context.endpoint := by
    cases s with
    | openstack s => exact s.keeps_endpoint tolerant
    | vcloud s => exact .pure _
  refine .bind (.demand _ _) fun path => ?_
  split
  · exact .pure r
  · exact .bind endpoint fun base => .bind (.demand _ _) fun url => .pure _

theorem kept_client : s.context.client.Kept R := by
  cases s with
  | openstack s =>
    refine (s.kept_client tolerant).withFilter fun r => ?_
    exact .bind (s.keeps_session tolerant) fun _ => .demand _ _
  | vcloud s => exact (s.caching_of_tolerant tolerant).kept_context

omit [IsPreorder Store R] tolerant in
theorem kept_sessions : s.sessions.Kept Store.Onward s.login := by
  cases s with
  | openstack s => exact s.kept_sessions Store.tolerant_onward
  | vcloud s => exact s.kept_sessions Store.tolerant_onward

end Service

end CloudSession
