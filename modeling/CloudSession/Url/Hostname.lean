import CloudSession.Fault
import CloudSession.Url.Split

/-! # Host names of a url

A url is turned into one that names its host in full, as the look-up of names knows it. An address
stays as it is, and so does a host that cannot be looked up.
-/

namespace CloudSession.Url

/-- Full names of hosts, or how looking them up fails. -/
abbrev Names := Fields (Except FaultPlan String)

/-- Look up the full name of a host. -/
def Names.find (names : Names) : Option String → Except FaultPlan String
  | none => .error (.ofKind .type)
  | some host => match names.get? host with
    | some answer => answer
    | none => .error (.ofKind .io)

/-- Whether a host is an address; a host with a NUL is no host. -/
def isAddress : Option String → Except UrlError Bool
  | none => .ok false
  | some host => if host.toList.contains '\x00' then .error .nul else .ok (isIpv4 host)

/-- The fault of a url that cannot be taken apart. -/
def UrlError.plan (_ : UrlError) : FaultPlan := .ofKind .value

def withHostname (names : Names) (url : String) : Except FaultPlan String :=
  match split url with
  | .error e => .error e.plan
  | .ok parts =>
    match isAddress parts.hostname? with
    | .error e => .error e.plan
    | .ok true => .ok url
    | .ok false =>
      match names.find parts.hostname? with
      | .error plan => if plan.kind.isUnresolved then .ok url else .error plan
      | .ok name =>
        match parts.port? with
        | .error e => .error e.plan
        | .ok port =>
          let portText := match port with
            | some n => ":" ++ Decimal.text n
            | none => ""
          .ok (parts.scheme ++ "://" ++ name ++ portText ++ parts.path)

end CloudSession.Url
