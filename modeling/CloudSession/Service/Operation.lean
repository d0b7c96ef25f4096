import CloudSession.Service

/-! # Operations on a service

What can be asked of the context of a service, and of the caches behind a vCloud service.
-/

namespace CloudSession

inductive Operation where
  | request (r : Request) (timeout : Value)
  /-- A request in a context that is closed behind it. -/
  | requestAndClose (r : Request)
  | session
  | endpoint
  | invalidate
  | close
  | pass (seconds : Float)
  /-- Of the caches of a vCloud service. -/
  | caches (operation : VCloud.Caches.Operation)
  | loginUri

inductive Answer where
  | nothing
  | response (response : ResponseId)
  | session (s : Session)
  | value (v : Value)

namespace Service

/-- Perform an operation; an OpenStack service has no caches of that sort. -/
def perform (s : Service) : Operation → Act Store Answer
  | .request r timeout => return .response (← s.context.request r timeout)
  | .requestAndClose r => return .response (← s.context.within (s.context.request r))
  | .session => return .session (← s.context.session)
  | .endpoint => return .value (← s.context.endpoint)
  | .invalidate => do
    s.context.invalidate
    return .nothing
  | .close => do
    s.context.close
    return .nothing
  | .pass seconds => do
    Act.pass seconds
    return .nothing
  | .caches operation =>
    match s with
    | .openstack _ => Act.failKind .attribute
    | .vcloud v => do
      match ← v.caches.perform operation with
      | .session session => return .session session
      | .value value => return .value value
  | .loginUri =>
    match s with
    | .openstack _ => Act.failKind .attribute
    | .vcloud v => return .value (← v.loginUri)

/-- The world behind operations that are performed in a row, however each of them ends. -/
def after (s : Service) (operations : List Operation) (w : World Store) : World Store :=
  operations.foldl (fun w operation => ((s.perform operation).play w).2) w

end Service

end CloudSession
