import CloudSession.Supplier.Traffic
import CloudSession.VCloud.Caches

/-! # Hub of a vCloud credential

The caches of a credential with many callers at each. The fetch of the map of organisations asks
for the session as any caller does, and may wait there for a login. An order to forget has two
halves, which others may come between, and any number of orders may be under way.
-/

namespace CloudSession.VCloud

/-- What somebody wants a session for. -/
inductive Purpose where
  | session
  | token
  | orgListUri
  /-- For a call of the fetch of the map, which has a number. -/
  | orgMap (call : Nat)
  deriving Repr, DecidableEq

namespace Purpose

/-- What a session gives for a purpose, or why it does not. -/
def answer (s : Session) : Purpose → Except FaultHead Caches.Answer
  | .session => .ok (.session s)
  | .token => (Caches.tokenIn s).map .value
  | .orgListUri => (Caches.orgListUriIn s).map fun uri => .value (.text uri)
  | .orgMap _ => .ok (.value (.pairs s.directory))

end Purpose

/-- What both caches are set up with. -/
structure Terms where
  ttl : Option Number
  maxAttempts : Int

namespace Terms

def sessions (terms : Terms) : Manner := ⟨Caches.sessionName, terms.ttl, terms.maxAttempts⟩

def orgMaps (terms : Terms) : Manner := ⟨Caches.orgMapName, terms.ttl, terms.maxAttempts⟩

end Terms

structure Hub where
  clock : Float
  log : FaultLog := {}
  latch : Latch := {}
  sessions : Desk Session := {}
  orgMaps : Desk (Fields Value) := {}
  /-- What the callers at the sessions want them for, in the order they came. -/
  purposes : List Purpose := []

namespace Hub

inductive Event where
  /-- Somebody asks for a session. -/
  | session
  | token
  | orgListUri
  | orgs
  /-- A caller at the sessions gets on. -/
  | goSession (caller : Nat)
  /-- A caller at the maps gets on. -/
  | goOrgs (caller : Nat)
  /-- A login that is under way ends. -/
  | land (login : Nat) (landing : Landing Session)
  /-- The first half of an order to forget. -/
  | forgetSessions
  /-- The second half of an order to forget. -/
  | forgetOrgMaps
  | pass (seconds : Float)
  | setClock (time : Float)
  | trySet (plan : FaultPlan)

/-- What those at the sessions see. -/
def atSessions (h : Hub) : Traffic Session :=
  { toDesk := h.sessions, clock := h.clock, log := h.log, latch := h.latch }

/-- What those at the maps see. -/
def atOrgMaps (h : Hub) : Traffic (Fields Value) :=
  { toDesk := h.orgMaps, clock := h.clock, log := h.log, latch := h.latch }

def putSessions (h : Hub) (t : Traffic Session) : Hub :=
  { h with sessions := t.toDesk, clock := t.clock, log := t.log, latch := t.latch }

def putOrgMaps (h : Hub) (t : Traffic (Fields Value)) : Hub :=
  { h with orgMaps := t.toDesk, clock := t.clock, log := t.log, latch := t.latch }

/-- Come to the sessions with a purpose. -/
def ask (h : Hub) (purpose : Purpose) : Hub :=
  { h.putSessions (h.atSessions.call Caches.sessionName none) with
    purposes := h.purposes ++ [purpose] }

/-- Who asked for the session on behalf of a call of the fetch of the map. -/
def errand? (h : Hub) (call : Nat) : Option Nat := h.purposes.findIdx? (· = .orgMap call)

/-- A call of the fetch of the map gets on: it asks for the session, and ends as that does. -/
def fetchOrgs (terms : Terms) (h : Hub) (call : Nat) : Hub :=
  match h.errand? call with
  | none => h.ask (.orgMap call)
  | some errand =>
    match h.sessions.stage? errand with
    | some (.done (.ok s)) =>
      h.putOrgMaps (h.atOrgMaps.land terms.orgMaps call (.value s.directory)).2
    | some (.done (.error fault)) =>
      h.putOrgMaps (h.atOrgMaps.land terms.orgMaps call (.known fault)).2
    | _ => h

def goOrgs (terms : Terms) (h : Hub) (caller : Nat) : Hub :=
  match h.orgMaps.stage? caller with
  | some (.fetching call _ _ _) => h.fetchOrgs terms call
  | _ => h.putOrgMaps (h.atOrgMaps.go terms.orgMaps caller)

def step (terms : Terms) (h : Hub) : Event → Hub
  | .session => h.ask .session
  | .token => h.ask .token
  | .orgListUri => h.ask .orgListUri
  | .orgs => h.putOrgMaps (h.atOrgMaps.call Caches.orgMapName none)
  | .goSession caller => h.putSessions (h.atSessions.go terms.sessions caller)
  | .goOrgs caller => h.goOrgs terms caller
  | .land login landing => h.putSessions (h.atSessions.land terms.sessions login landing).2
  | .forgetSessions => { h with sessions := h.sessions.forget }
  | .forgetOrgMaps => { h with orgMaps := h.orgMaps.forget }
  | .pass seconds => { h with clock := h.clock + seconds }
  | .setClock time => { h with clock := time }
  | .trySet plan => h.putSessions (h.atSessions.step terms.sessions (.trySet plan)).2

def run (terms : Terms) (h : Hub) (events : List Event) : Hub := events.foldl (step terms) h

/-- What somebody who asked for a session was answered, if he was given one that serves his
purpose. -/
def answer? (h : Hub) (caller : Nat) : Option Caches.Answer :=
  match h.sessions.stage? caller, h.purposes[caller]? with
  | some (.done (.ok s)), some purpose => (purpose.answer s).toOption
  | _, _ => none

end Hub

end CloudSession.VCloud
