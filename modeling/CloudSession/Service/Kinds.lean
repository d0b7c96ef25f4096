import CloudSession.Service

/-! # One way to speak of both kinds of services

Either kind of service keeps sessions that a login brings, signs requests with a header, and tells
by a marker that a lease has ended.
-/

namespace CloudSession.Service

def options : Service → ServiceOptions
  | .openstack s => s.options
  | .vcloud s => s.options

def sessions : Service → Supplier Store Session
  | .openstack s => s.sessions
  | .vcloud s => s.sessions

def login : Service → Act Store Session
  | .openstack s => s.login.authenticate
  | .vcloud s => s.login.login

/-- How the end of a lease is recognized. -/
def renewal : Service → Renewal
  | .openstack s =>
    { marker := s.options.leaseMarker
      userHeader := s.options.userHeader
      keyHeader := s.options.keyHeader
      tokenHeader := s.options.tokenHeader
      maxPayload := s.options.maxPayload }
  | .vcloud s =>
    { marker := s.options.leaseMarker
      userHeader := .text "Authorization"
      keyHeader := .text "Authorization"
      tokenHeader := .text s.style.carrier
      maxPayload := s.options.maxPayload }

/-- A store whose session is forgotten, and the map of organisations where there is one. -/
def forget : Service → Store → Store
  | .openstack _, state => { state with sessions := state.sessions.invalidate }
  | .vcloud _, state =>
    { state with
      sessions := state.sessions.invalidate
      orgMaps := state.orgMaps.invalidate }

variable (s : Service)

theorem session_eq : s.context.session = s.sessions.get s.login := by
  cases s <;> rfl

theorem retry_eq : s.context.client.retry =
    some (.delegating (.renew s.renewal s.context.invalidate)
      (.backoff { limit := s.options.maxRetries, delayStart := s.options.retryDelayStart })) := by
  cases s <;> rfl

theorem limit?_eq : s.context.client.limit? =
    s.options.maxRetries.asNumber?.map fun limit => limit.floor.toNat := by
  cases s <;> rfl

theorem play_invalidate (w : World Store) :
    s.context.invalidate.play w = (.ok (), { w with own := s.forget w.own }) := by
  cases s <;> rfl

theorem read_forget (state : Store) :
    Wired.wire.read (s.forget state) = (Wired.wire.read state : Wire) := by
  cases s <;> rfl

end CloudSession.Service
