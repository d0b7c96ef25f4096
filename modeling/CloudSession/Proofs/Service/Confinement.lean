import CloudSession.Proofs.Http.Twin
import CloudSession.Proofs.Supplier.Twin
import CloudSession.Proofs.VCloud.Refusal
import CloudSession.Service.Operation

/-! # Where a credential goes

Two services that differ in their credential alone run alike: they send as many requests, one for
one the same but for what the login headers hold, take the same naps and come to the same answers
and faults. So a credential shows nowhere but in the headers of logins, and decides nothing.
-/

namespace CloudSession

open Act

/-- Headers that differ in what some of them hold. -/
abbrev Headers.AlikeBut (names : List Value) : Headers → Headers → Prop :=
  List.Forall₂ fun h h' => h.1 = h'.1 ∧ (h.1 ∈ names ∨ h.2 = h'.2)

structure Request.AlikeBut (names : List Value) (r r' : Request) : Prop where
  method : r.method = r'.method
  endpoint : r.endpoint = r'.endpoint
  headers : r.headers.AlikeBut names r'.headers
  payload : r.payload = r'.payload
  params : r.params = r'.params

theorem Headers.AlikeBut.redacted_eq {names : List Value} {headers headers' : Headers}
    (alike : headers.AlikeBut names headers') : headers.redacted = headers'.redacted := by
  induction alike with
  | nil => rfl
  | cons first _ ih => exact congrArg₂ List.cons (Prod.ext first.1 rfl) ih

theorem Request.AlikeBut.redacted_eq {names : List Value} {r r' : Request}
    (alike : r.AlikeBut names r') : r.redacted = r'.redacted := by
  simp only [redacted, alike.method, alike.endpoint, alike.headers.redacted_eq, alike.payload,
    alike.params]

/-- States that are the same but for what was sent, where related requests stand in the same
places. -/
structure Store.Twin (R : Request → Request → Prop) (s t : Store) : Prop where
  wire : s.wire.Paired R t.wire
  latch : s.latch = t.latch
  sessions : s.sessions = t.sessions
  orgMaps : s.orgMaps = t.orgMaps
  loginUris : s.loginUris = t.loginUris

section

variable {R : Request → Request → Prop}

theorem Store.paired_wire :
    (Wired.wire : Slot Store Wire).Paired (Store.Twin R) (Wire.Paired R) where
  read twin := twin.wire
  write twin wire := { twin with wire := wire }

theorem Store.paired_latch : Store.latchSlot.Paired (Store.Twin R) (· = ·) where
  read twin := twin.latch
  write twin same := { twin with latch := same }

theorem Store.paired_sessions : Store.sessionSlot.Paired (Store.Twin R) (· = ·) where
  read twin := twin.sessions
  write twin same := { twin with sessions := same }

theorem Store.paired_orgMaps : Store.orgMapSlot.Paired (Store.Twin R) (· = ·) where
  read twin := twin.orgMaps
  write twin same := { twin with orgMaps := same }

theorem Store.paired_loginUris : Store.loginUriSlot.Paired (Store.Twin R) (· = ·) where
  read twin := twin.loginUris
  write twin same := { twin with loginUris := same }

end

def ServiceOptions.withCredential (o : ServiceOptions) (identity credential : Value) :
    ServiceOptions :=
  { o with identity := identity, credential := credential }

def OpenStack.Service.withCredential (s : OpenStack.Service) (identity credential : Value) :
    OpenStack.Service where
  options := s.options.withCredential identity credential

def VCloud.Service.withCredential (s : VCloud.Service) (identity credential : Value) :
    VCloud.Service :=
  { s with options := s.options.withCredential identity credential }

namespace Service

def withCredential (s : Service) (identity credential : Value) : Service :=
  match s with
  | .openstack s => .openstack (s.withCredential identity credential)
  | .vcloud s => .vcloud (s.withCredential identity credential)

def Logins : Service → Request → Prop
  | .openstack s => s.Logins
  | .vcloud s => s.Logins

/-- The headers in which a login carries the credential. -/
def secretHeaders : Service → List Value
  | .openstack _ => [.text Defaults.userHeader, .text Defaults.keyHeader]
  | .vcloud _ => [.text "Authorization"]

/-- Two services send the same request, or each its login to the same place. -/
def Counterpart (s t : Service) (r r' : Request) : Prop :=
  r = r' ∨ s.Logins r ∧ t.Logins r' ∧ r.AlikeBut s.secretHeaders r'

/-- What two services keep that ran alike. -/
abbrev Twins (s t : Service) : Store → Store → Prop := Store.Twin (s.Counterpart t)

theorem Counterpart.redacted_eq {s t : Service} {r r' : Request} (related : s.Counterpart t r r') :
    r.redacted = r'.redacted := by
  rcases related with rfl | ⟨_, _, alike⟩
  · rfl
  · exact alike.redacted_eq

/-- What operations in a row end with. -/
def transcript (s : Service) : List Operation → World Store → List (Except FaultId Answer)
  | [], _ => []
  | operation :: operations, w =>
    ((s.perform operation).play w).1 ::
      transcript s operations ((s.perform operation).play w).2

end Service

/-! ## OpenStack -/

namespace OpenStack.Service

variable (s : Service) (identity credential : Value)

/-- What the service and the one under another credential keep. -/
abbrev Twins : Store → Store → Prop :=
  (CloudSession.Service.openstack s).Twins (.openstack (s.withCredential identity credential))

theorem counterpart_login {url : String} (known : s.login.url? = some url) :
    (CloudSession.Service.openstack s).Counterpart
      (.openstack (s.withCredential identity credential)) (s.login.request url)
      ((s.withCredential identity credential).login.request url) := by
  refine .inr ⟨⟨url, known, rfl⟩, ⟨url, known, rfl⟩, rfl, rfl, ?_, rfl, rfl⟩
  refine .cons ⟨rfl, .inl ?_⟩ (.cons ⟨rfl, .inl ?_⟩ .nil)
  · exact List.mem_cons_self
  · exact List.mem_cons_of_mem _ List.mem_cons_self

theorem paired_retry : ∀ handler, s.client.retry = some handler →
    handler.Paired (s.Twins identity credential) := by
  rintro handler ⟨⟩
  exact ⟨Store.paired_sessions.change fun _ _ same => same ▸ rfl, trivial⟩

theorem paired_login : Act.Paired (s.Twins identity credential) (· = ·)
    s.login.authenticate (s.withCredential identity credential).login.authenticate := by
  refine .bindDemand fun url known => ?_
  have related := s.counterpart_login identity credential known
  have client : s.client.Paired (s.Twins identity credential) _
      (s.withCredential identity credential).client (s.login.request url)
      ((s.withCredential identity credential).login.request url) :=
    { same := rfl
      wire := Store.paired_wire
      retry := s.paired_retry identity credential
      alike := CloudSession.Service.Counterpart.redacted_eq
      given := related.redacted_eq
      filter := .pure related }
  refine .bindEq (client.execute _) fun response => ?_
  refine .bindEq (Wire.paired_response Store.paired_wire response) fun r => ?_
  split
  · exact .fail _
  · exact .bindEq .now fun _ => .pure rfl

theorem paired_session : Act.Paired (s.Twins identity credential) (· = ·)
    s.session (s.withCredential identity credential).session :=
  Supplier.Paired.get ⟨Store.paired_sessions, Store.paired_latch,
    s.paired_login identity credential⟩ none

/-- What the context is asked for is signed with the same token. -/
theorem paired_context (asked : Request) :
    s.context.client.Paired (s.Twins identity credential)
      ((CloudSession.Service.openstack s).Counterpart
        (.openstack (s.withCredential identity credential)))
      (s.withCredential identity credential).context.client asked asked where
  same := rfl
  wire := Store.paired_wire
  retry := s.paired_retry identity credential
  alike := CloudSession.Service.Counterpart.redacted_eq
  given := rfl
  filter := by
    refine .bindEq (.bindEq (s.paired_session identity credential) fun session => .demand _ _) ?_
    exact fun signed => .pure (.inl rfl)

end OpenStack.Service

/-! ## vCloud -/

namespace VCloud.Service

variable (s : Service) (identity credential : Value)

/-- What the service and the one under another credential keep. -/
abbrev Twins : Store → Store → Prop :=
  (CloudSession.Service.vcloud s).Twins (.vcloud (s.withCredential identity credential))

theorem counterpart_login (uri : Value) :
    (CloudSession.Service.vcloud s).Counterpart (.vcloud (s.withCredential identity credential))
      (s.login.request uri) ((s.withCredential identity credential).login.request uri) :=
  .inr ⟨⟨uri, rfl⟩, ⟨uri, rfl⟩, rfl, rfl, .cons ⟨rfl, .inl List.mem_cons_self⟩ .nil, rfl, rfl⟩

theorem paired_invalidate :
    Act.Paired (s.Twins identity credential) (· = ·) s.invalidate s.invalidate :=
  .bindEq (Store.paired_sessions.change fun _ _ same => same ▸ rfl) fun _ =>
    Store.paired_orgMaps.change fun _ _ same => same ▸ rfl

theorem paired_retry : ∀ handler, s.client.retry = some handler →
    handler.Paired (s.Twins identity credential) := by
  rintro handler ⟨⟩
  exact ⟨s.paired_invalidate identity credential, trivial⟩

/-- The client of logins, and of anything that both services ask for. -/
theorem paired_client {asked asked' : Request}
    (related : (CloudSession.Service.vcloud s).Counterpart
      (.vcloud (s.withCredential identity credential)) asked asked') :
    s.client.Paired (s.Twins identity credential)
      ((CloudSession.Service.vcloud s).Counterpart
        (.vcloud (s.withCredential identity credential)))
      (s.withCredential identity credential).client asked asked' where
  same := rfl
  wire := Store.paired_wire
  retry := s.paired_retry identity credential
  alike := CloudSession.Service.Counterpart.redacted_eq
  given := related.redacted_eq
  filter := .pure related

/-- Where to log in does not depend on the credential. -/
theorem paired_findLoginUri :
    Act.Paired (s.Twins identity credential) (· = ·) s.findLoginUri s.findLoginUri := by
  unfold findLoginUri
  split
  · exact .pure rfl
  · split
    · exact .fail _
    · refine .bindEq ?_ fun versions => .grant _
      refine .bindEq (.demand _ _) fun url => ?_
      refine .bindEq ((s.paired_client identity credential (.inl rfl)).execute _) fun response => ?_
      refine .bindEq (Wire.paired_response Store.paired_wire response) fun r => ?_
      split
      · exact .pure rfl
      · exact .fail _

theorem paired_loginUri : Act.Paired (s.Twins identity credential) (· = ·)
    s.loginUri (s.withCredential identity credential).loginUri :=
  Supplier.Paired.get ⟨Store.paired_loginUris, Store.paired_latch,
    s.paired_findLoginUri identity credential⟩ none

theorem paired_login : Act.Paired (s.Twins identity credential) (· = ·)
    s.login.login (s.withCredential identity credential).login.login := by
  refine .bindEq (s.paired_loginUri identity credential) fun uri => ?_
  have client := s.paired_client identity credential (s.counterpart_login identity credential uri)
  refine .bindEq (client.execute _) fun response => ?_
  refine .bindEq (Wire.paired_response Store.paired_wire response) fun r => ?_
  have reader : (s.withCredential identity credential).login.orgs = s.login.orgs := rfl
  rw [reader]
  split
  · exact .fail _
  · split
    · exact .fail _
    · split
      · exact .fail _
      · exact .fail _
      · exact .bindEq .now fun _ => .pure rfl

theorem paired_session : Act.Paired (s.Twins identity credential) (· = ·)
    s.caches.session (s.withCredential identity credential).caches.session :=
  Supplier.Paired.get ⟨Store.paired_sessions, Store.paired_latch,
    s.paired_login identity credential⟩ none

theorem paired_token : Act.Paired (s.Twins identity credential) (· = ·)
    s.caches.token (s.withCredential identity credential).caches.token :=
  .bindEq (s.paired_session identity credential) fun _ => .grant _

theorem paired_orgs : Act.Paired (s.Twins identity credential) (· = ·)
    s.caches.orgs (s.withCredential identity credential).caches.orgs :=
  Supplier.Paired.get ⟨Store.paired_orgMaps, Store.paired_latch,
    .bindEq (s.paired_session identity credential) fun _ => .pure rfl⟩ none

theorem paired_caches (operation : Caches.Operation) :
    Act.Paired (s.Twins identity credential) (· = ·) (s.caches.perform operation)
      ((s.withCredential identity credential).caches.perform operation) := by
  have session := s.paired_session identity credential
  cases operation with
  | session => exact .bindEq session fun _ => .pure rfl
  | token => exact .bindEq (s.paired_token identity credential) fun _ => .pure rfl
  | orgs => exact .bindEq (s.paired_orgs identity credential) fun _ => .pure rfl
  | orgListUri => exact .bindEq (.bindEq session fun _ => .grant _) fun _ => .pure rfl
  | invalidate => exact .bindEq (s.paired_invalidate identity credential) fun _ => .pure rfl

/-- What the context is asked for is signed with the same token. -/
theorem paired_context (asked : Request) :
    s.context.client.Paired (s.Twins identity credential)
      ((CloudSession.Service.vcloud s).Counterpart
        (.vcloud (s.withCredential identity credential)))
      (s.withCredential identity credential).context.client asked asked where
  same := rfl
  wire := Store.paired_wire
  retry := s.paired_retry identity credential
  alike := CloudSession.Service.Counterpart.redacted_eq
  given := rfl
  filter := by
    refine .bindEq (.bindEq (s.paired_token identity credential) fun token => .pure rfl) ?_
    exact fun signed => .pure (.inl rfl)

end VCloud.Service

/-! ## Every operation -/

namespace Service

variable (s : Service) (identity credential : Value)

theorem paired_session : Act.Paired (s.Twins (s.withCredential identity credential)) (· = ·)
    s.context.session (s.withCredential identity credential).context.session := by
  cases s with
  | openstack s => exact s.paired_session identity credential
  | vcloud s => exact s.paired_session identity credential

theorem paired_endpoint : Act.Paired (s.Twins (s.withCredential identity credential)) (· = ·)
    s.context.endpoint (s.withCredential identity credential).context.endpoint := by
  cases s with
  | openstack s => exact .bindEq (s.paired_session identity credential) fun _ => .pure rfl
  | vcloud s => exact .pure rfl

theorem paired_request (r : Request) (timeout : Value) :
    Act.Paired (s.Twins (s.withCredential identity credential)) (· = ·)
      (s.context.request r timeout)
      ((s.withCredential identity credential).context.request r timeout) := by
  have client (asked : Request) : s.context.client.Paired
      (s.Twins (s.withCredential identity credential))
      (s.Counterpart (s.withCredential identity credential))
      (s.withCredential identity credential).context.client asked asked := by
    cases s with
    | openstack s => exact s.paired_context identity credential asked
    | vcloud s => exact s.paired_context identity credential asked
  refine .bindEq ?_ fun asked => (client asked).execute timeout
  refine .bindEq (.demand _ _) fun path => ?_
  split
  · exact .pure rfl
  · refine .bindEq (s.paired_endpoint identity credential) fun base => ?_
    exact .bindEq (.demand _ _) fun url => .pure rfl

theorem paired_perform (operation : Operation) :
    Act.Paired (s.Twins (s.withCredential identity credential)) (· = ·) (s.perform operation)
      ((s.withCredential identity credential).perform operation) := by
  have request := s.paired_request identity credential
  cases operation with
  | request r timeout => exact .bindEq (request r timeout) fun _ => .pure rfl
  | requestAndClose r =>
    have closing := Act.Paired.andFinally (request r .null) (Wire.paired_close Store.paired_wire)
    exact .bindEq closing fun _ => .pure rfl
  | session => exact .bindEq (s.paired_session identity credential) fun _ => .pure rfl
  | endpoint => exact .bindEq (s.paired_endpoint identity credential) fun _ => .pure rfl
  | invalidate =>
    cases s with
    | openstack s =>
      exact .bindEq (Store.paired_sessions.change fun _ _ same => same ▸ rfl) fun _ => .pure rfl
    | vcloud s => exact .bindEq (s.paired_invalidate identity credential) fun _ => .pure rfl
  | close => exact .bindEq (Wire.paired_close Store.paired_wire) fun _ => .pure rfl
  | pass seconds => exact .bindEq (.pass seconds) fun _ => .pure rfl
  | caches operation =>
    cases s with
    | openstack s => exact .fail _
    | vcloud s =>
      refine .bindEq (s.paired_caches identity credential operation) fun answer => ?_
      cases answer <;> exact .pure rfl
  | loginUri =>
    cases s with
    | openstack s => exact .fail _
    | vcloud s => exact .bindEq (s.paired_loginUri identity credential) fun _ => .pure rfl

variable {s identity credential}

theorem twin_after (operations : List Operation) {w v : World Store}
    (twin : w.Twin (s.Twins (s.withCredential identity credential)) v) :
    s.transcript operations w = (s.withCredential identity credential).transcript operations v ∧
      (s.after operations w).Twin (s.Twins (s.withCredential identity credential))
        ((s.withCredential identity credential).after operations v) := by
  induction operations generalizing w v with
  | nil => exact ⟨rfl, twin⟩
  | cons operation operations ih =>
    have agree := s.paired_perform identity credential operation w v twin
    obtain ⟨same, later⟩ := ih agree.twin
    refine ⟨?_, later⟩
    rw [transcript, transcript, agree.outcome, same]

theorem twin_refl (t : Service) (w : World Store) : w.Twin (s.Twins t) w where
  clock := rfl
  sleeper := rfl
  naps := rfl
  log := rfl
  own :=
    { wire :=
        { server := rfl
          sent := List.forall₂_same.mpr fun _ _ => ⟨.inl rfl, rfl, rfl⟩
          responses := rfl
          closed := rfl }
      latch := rfl
      sessions := rfl
      orgMaps := rfl
      loginUris := rfl }

/-- Whatever the server answers and whatever is asked for, a service answers as it would under any
other credential, and behind its answers everything looks the same: the clock, the naps, what the
caches hold, the faults with all that they tell, the responses, and each request that was sent, but
for what the login headers hold in the logins. -/
theorem credential_confined (s : Service) (identity credential : Value)
    (operations : List Operation) (w : World Store) :
    s.transcript operations w = (s.withCredential identity credential).transcript operations w ∧
      (s.after operations w).Twin (s.Twins (s.withCredential identity credential))
        ((s.withCredential identity credential).after operations w) :=
  twin_after operations (twin_refl _ w)

end Service

end CloudSession
