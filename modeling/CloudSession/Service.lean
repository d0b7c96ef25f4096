import CloudSession.OpenStack.Login
import CloudSession.Service.Options
import CloudSession.Service.Store
import CloudSession.Settings
import CloudSession.VCloud.Caches
import CloudSession.VCloud.Login

/-! # Services

A service knows how to log in at a provider and keeps the session. Its context is what operations
run against: requests signed with the session of the moment.
-/

namespace CloudSession

/-- What operations of a provider run against. -/
structure Context where
  provider : Provider
  client : Client Store
  sessionName : String
  session : Act Store Session
  endpoint : Act Store Value
  invalidate : Act Store Unit

namespace Context

/-- Whether a path is a url of its own. -/
def isAbsolute (path : String) : Bool :=
  "http://".toList.isPrefixOf path.toList || "https://".toList.isPrefixOf path.toList

/-- A request with the url that its path stands for. -/
def address (c : Context) (r : Request) : Act Store Request := do
  let path ← Act.demand r.endpoint.text? .attribute
  if isAbsolute path then return r
  else
    let url ← Act.demand (Url.join? (← c.endpoint) [.text path]) .attribute
    return { r with endpoint := .text url }

def request (c : Context) (r : Request) (timeout : Value := .null) : Act Store ResponseId := do
  c.client.execute (← c.address r) timeout

def close (_ : Context) : Act Store Unit := Wire.close

/-- Run an act against a context and close it behind, whatever becomes of the act. -/
def within {α : Type} (c : Context) (act : Act Store α) : Act Store α := act.andFinally c.close

end Context

namespace OpenStack

structure Service where
  options : ServiceOptions

namespace Service

variable (s : Service)

def sessions : Supplier Store Session where
  name := s.options.provider.id ++ " session"
  ttl := s.options.sessionInterval.asNumber?
  maxAttempts := s.options.fetchAttempts
  cell := Store.sessionSlot
  latch := Store.latchSlot

def client : Client Store :=
  s.options.client
    { userHeader := s.options.userHeader
      keyHeader := s.options.keyHeader
      tokenHeader := s.options.tokenHeader }
    s.sessions.invalidate .plain

def login : Login Store where
  client := s.client
  endpoint := s.options.endpoint
  user := s.options.identity
  key := s.options.credential
  apiVersion := s.options.apiVersion
  timeout := s.options.loginTimeout

def session : Act Store Session := s.sessions.get s.login.authenticate

/-- The endpoint a session names for compute, or the one the service was built with. -/
def endpointOf (session : Session) : Value :=
  (session.directory.get? "compute").getD s.options.endpoint

def computeEndpoint : Act Store Value := do return s.endpointOf (← s.session)

def context : Context where
  provider := s.options.provider
  client := s.client.withFilters [sign s.options.tokenHeader s.session]
  sessionName := s.sessions.name
  session := s.session
  endpoint := s.computeEndpoint
  invalidate := s.sessions.invalidate

end Service

end OpenStack

namespace VCloud

/-- A vCloud service, with what reads the lists of organisations and versions of a reply. -/
structure Service where
  options : ServiceOptions
  orgs : Reader := noOrgs
  versions : Option Reader := none

namespace Service

variable (s : Service)

def style : TokenStyle := .named s.options.provider.tokenStyle

def sessions : Supplier Store Session where
  name := Caches.sessionName
  ttl := s.options.sessionInterval.asNumber?
  maxAttempts := s.options.fetchAttempts
  cell := Store.sessionSlot
  latch := Store.latchSlot

def orgMaps : Supplier Store (Fields Value) where
  name := Caches.orgMapName
  ttl := s.options.sessionInterval.asNumber?
  maxAttempts := s.options.fetchAttempts
  cell := Store.orgMapSlot
  latch := Store.latchSlot

/-- The login uri is resolved once for good. -/
def loginUris : Supplier Store Value where
  name := s.options.provider.id ++ " login uri"
  ttl := some (.real (1 / 0))
  maxAttempts := s.options.fetchAttempts
  cell := Store.loginUriSlot
  latch := Store.latchSlot

/-- Forget the session, then the organisations. -/
def invalidate : Act Store Unit := do
  s.sessions.invalidate
  s.orgMaps.invalidate

/-- A login carries basic credentials and no token. -/
def client : Client Store :=
  s.options.client
    { userHeader := .text "Authorization"
      keyHeader := .text "Authorization"
      tokenHeader := .text s.style.carrier }
    s.invalidate .vcloud

def findLoginUri : Act Store Value := do
  if s.options.loginEndpoint.holds then return s.options.loginEndpoint
  match s.versions with
  | none =>
    Act.fail (illegalState (s.options.provider.id ++
      " has no login_endpoint configured and no version parser to discover it"))
  | some reader =>
    let versions : Versions Store :=
      ⟨s.client, s.options.endpoint, reader, s.options.versionsTimeout⟩
    versions.uri s.options.apiVersion

def loginUri : Act Store Value := s.loginUris.get s.findLoginUri

def login : Login Store where
  client := s.client
  uri := s.loginUri
  user := s.options.identity
  password := s.options.credential
  orgs := s.orgs
  timeout := s.options.loginTimeout

def caches : Caches Store where
  sessions := s.sessions
  orgMaps := s.orgMaps
  login := s.login.login

def context : Context where
  provider := s.options.provider
  client := s.client.withFilters [sign s.style s.caches.token]
  sessionName := s.sessions.name
  session := s.caches.session
  endpoint := pure s.options.endpoint
  invalidate := s.caches.invalidate

end Service

end VCloud

inductive Service where
  | openstack (s : OpenStack.Service)
  | vcloud (s : VCloud.Service)

namespace Service

def api : Service → Api
  | .openstack _ => .openstack
  | .vcloud _ => .vcloud

def context : Service → Context
  | .openstack s => s.context
  | .vcloud s => s.context

/-- What reads the lists in a reply, as far as the caller names it. Versions may be named to have no
reader. -/
structure Readers where
  orgs : Option VCloud.Reader := none
  versions : Option (Option VCloud.Reader) := none

/-- Readers, or else what stands for them among the overrides. No value can read: one that does not
hold asks for no organisations, and only an absent one for no reader of versions. -/
def Readers.among (readers : Readers) (overrides : Fields Value) : Readers where
  orgs := readers.orgs <|> (overrides.get? "org_parser").map fun v =>
    if v.holds then VCloud.unreadable else VCloud.noOrgs
  versions := readers.versions <|> (overrides.get? "version_parser").map fun
    | .null => none
    | _ => some VCloud.unreadable

/-- A service from its blueprint; an OpenStack service has no use for readers. -/
def ofBlueprint (b : Blueprint) (readers : Readers) : Except FaultKind Service := do
  match Api.named? b.provider.api with
  | none => .error .key
  | some .openstack =>
    if readers.orgs.isSome || readers.versions.isSome then .error .type
    else return .openstack ⟨← b.options⟩
  | some .vcloud =>
    return .vcloud ⟨← b.options, readers.orgs.getD VCloud.noOrgs, readers.versions.join⟩

/-- The service of a provider, from the settings with `overrides` put over them. The provider is
named once, and not among the overrides. -/
def new (settings : Settings) (names : Url.Names) (id : String) (overrides : Fields Value)
    (readers : Readers) : Except FaultPlan Service := do
  if (overrides.get? "provider_id").isSome then throw (.ofKind .type)
  let provider ← (Provider.load .shipped id).mapError .simple
  let fields ← (settings.build names provider).2
  (ofBlueprint ⟨provider, fields.update overrides⟩ (readers.among overrides)).mapError .ofKind

end Service

end CloudSession
