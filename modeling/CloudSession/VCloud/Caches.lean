import CloudSession.Session
import CloudSession.Supplier
import CloudSession.VCloud.Orgs
import CloudSession.VCloud.Versions

/-! # Caches of a vCloud credential

The session of a credential and the map of its organisations, which is made from the session. Both
look at one latch, so that a rejected credential stops both.
-/

namespace CloudSession.VCloud

structure Caches (σ : Type) where
  sessions : Supplier σ Session
  orgMaps : Supplier σ (Fields Value)
  login : Act σ Session
  same_latch : orgMaps.latch = sessions.latch := by rfl

namespace Caches

variable {σ : Type}

def sessionName : String := "vcloud session"
def orgMapName : String := "vcloud org map"

def session (c : Caches σ) : Act σ Session := c.sessions.get c.login

def orgs (c : Caches σ) : Act σ (Fields Value) :=
  c.orgMaps.get do return (← c.session).directory

/-- The token of a session, or why there is none. -/
def tokenIn (s : Session) : Except FaultHead Value :=
  match s.token with
  | .null => .error (illegalState "No token present in session")
  | token => .ok token

/-- The uri that lists organisations, from the last organisation of a session. -/
def orgListUriIn (s : Session) : Except FaultHead String :=
  match s.directory.values.getLast? with
  | none => .error (illegalState "No orgs present in session")
  | some (.reference _ (.text href) _) => .ok (orgList href)
  | some (.reference ..) => .error { kind := .type }
  | some _ => .error { kind := .attribute }

def token (c : Caches σ) : Act σ Value := do Act.grant (tokenIn (← c.session))

def orgListUri (c : Caches σ) : Act σ String := do Act.grant (orgListUriIn (← c.session))

/-- Forget the session, then the organisations. -/
def invalidate (c : Caches σ) : Act σ Unit := do
  c.sessions.invalidate
  c.orgMaps.invalidate

/-- Add an organisation to the map that was handed out, which is the one remembered. -/
def addOrg (c : Caches σ) (name : String) (value : Value) : Act σ Unit :=
  c.orgMaps.cell.change fun cell =>
    { cell with memo := cell.memo.map fun (orgs, landed) => (orgs.put name value, landed) }

inductive Operation where
  | session
  | token
  | orgs
  | orgListUri
  | invalidate
  deriving Repr, DecidableEq

inductive Answer where
  | session (s : Session)
  | value (v : Value)

def perform (c : Caches σ) : Operation → Act σ Answer
  | .session => return .session (← c.session)
  | .token => return .value (← c.token)
  | .orgs => return .value (.pairs (← c.orgs))
  | .orgListUri => return .value (.text (← c.orgListUri))
  | .invalidate => do
    c.invalidate
    return .value .null

end Caches

end CloudSession.VCloud
