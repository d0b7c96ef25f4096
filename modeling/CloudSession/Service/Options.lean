import CloudSession.Http.Client
import CloudSession.Provider
import CloudSession.Supplier.Traffic

/-! # What a service is built from

The options of a service, read from named fields: those of the settings, with what the caller puts
over them.
-/

namespace CloudSession

/-- A service without a way to log in: its provider and its fields. -/
structure Blueprint where
  provider : Provider
  fields : Fields Value

namespace Blueprint

def field (b : Blueprint) (name : String) : Except FaultKind Value :=
  match b.fields.get? name with
  | some v => .ok v
  | none => .error .key

/-- Whether a field is there and holds. -/
def holds (b : Blueprint) (name : String) : Bool := (b.fields.get? name).any Value.holds

def verify (b : Blueprint) : Verify :=
  if b.holds "insecure" then .off
  else match (b.fields.get? "cacert").filter Value.holds with
    | some place => .bundle place
    | none => .on

/-- How many attempts at a fetch there are, at least one. -/
def attempts (b : Blueprint) : Except FaultKind Number := do
  let some attempts := Manner.attempts? (← b.field "fetch_attempts") | throw .type
  return attempts

/-- The name of a supplier of something the service fetches. -/
def supplierName (b : Blueprint) (what : String) : String := b.provider.id ++ " " ++ what

/-- The transport, before it is told how to retry and what failures mean. -/
def client {σ : Type} (b : Blueprint) : Except FaultKind (Client σ) := do
  return {
    maxRetries := ← b.field "max_retries"
    timeout := ← b.field "timeout"
    verify := b.verify }

/-- A blueprint alone makes no context: it does not know how to log in. -/
def newContext {α : Type} (_ : Blueprint) : Except FaultKind α := .error .unsupported

end Blueprint

/-- The options of a service. But for the count of attempts they stay as the settings hold them:
what is of the wrong kind is found out when it is used. -/
structure ServiceOptions where
  provider : Provider
  endpoint : Value
  identity : Value
  credential : Value
  apiVersion : Value
  loginEndpoint : Value
  verify : Verify
  maxRetries : Value
  retryDelayStart : Value
  timeout : Value
  sessionInterval : Value
  loginTimeout : Value
  versionsTimeout : Value
  fetchAttempts : Int
  leaseMarker : Value
  userHeader : Value
  keyHeader : Value
  tokenHeader : Value
  maxPayload : Value

def Blueprint.options (b : Blueprint) : Except FaultKind ServiceOptions := do
  return {
    provider := b.provider
    endpoint := ← b.field "endpoint"
    identity := ← b.field "identity"
    credential := ← b.field "credential"
    apiVersion := ← b.field "api_version"
    loginEndpoint := ← b.field "login_endpoint"
    verify := b.verify
    maxRetries := ← b.field "max_retries"
    retryDelayStart := ← b.field "retry_delay_start"
    timeout := ← b.field "timeout"
    sessionInterval := ← b.field "session_interval"
    loginTimeout := ← b.field "login_timeout"
    versionsTimeout := ← b.field "versions_timeout"
    fetchAttempts := (← b.attempts).ceil
    leaseMarker := ← b.field "lease_renew_marker"
    userHeader := ← b.field "auth_user_header"
    keyHeader := ← b.field "auth_key_header"
    tokenHeader := ← b.field "auth_token_header"
    maxPayload := ← b.field "max_payload_bytes" }

namespace ServiceOptions

/-- The transport of a service: leases that run out are renewed, transient failures are waited
out, and everything else becomes a fault. -/
def client {σ : Type} (o : ServiceOptions) (renewal : Renewal) (invalidate : Act σ Unit)
    (errors : ErrorStyle) : Client σ where
  retry := some (.delegating
    (.renew { renewal with marker := o.leaseMarker, maxPayload := o.maxPayload } invalidate)
    (.backoff { limit := o.maxRetries, delayStart := o.retryDelayStart }))
  errors := some errors
  maxRetries := o.maxRetries
  timeout := o.timeout
  verify := o.verify

end ServiceOptions

end CloudSession
