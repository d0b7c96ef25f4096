import CloudSession.Http.Client
import CloudSession.Url.Join

/-! # vCloud versions

An endpoint tells which versions of the interface it supports, and where to log in for each.
-/

namespace CloudSession.VCloud

def illegalState (reason : String) : FaultHead :=
  .ofProblem .illegalState [("reason", .text reason)]

/-- Where to log in for a version, or why there is no such place. -/
def loginUri (versions : Option (Fields Value)) (version : Value) : Except FaultHead Value :=
  match versions with
  | none | some [] => .error (illegalState "No versions present")
  | some versions =>
    let absent := illegalState
      ("version " ++ version.display ++ " not present in: " ++ (Value.pairs versions).quoted)
    match version with
    | .text name => match versions.get? name with
      | some uri => .ok uri
      | none => .error absent
    | .list _ | .pairs _ => .error { kind := .type }
    | _ => .error absent

/-- Makes a list out of a reply, which may be no list at all, or fails on every reply. -/
abbrev Reader := Response → Except FaultKind (Option (Fields Value))

/-- What stands in for a reader but cannot read. -/
def unreadable : Reader := fun _ => .error .type

structure Versions (σ : Type) where
  client : Client σ
  endpoint : Value
  reader : Reader
  timeout : Value := .int Defaults.versionsTimeout

namespace Versions

variable {σ : Type} [Wired σ]

/-- The supported versions with their login uris. -/
def supported (v : Versions σ) : Act σ (Option (Fields Value)) := do
  let url ← Act.demand (Url.join? v.endpoint [.text "versions"]) .attribute
  let response ← v.client.execute { endpoint := .text url } v.timeout
  match v.reader (← Wire.response response) with
  | .ok versions => return versions
  | .error kind => Act.failKind kind

def uri (v : Versions σ) (version : Value) : Act σ Value := do
  Act.grant (loginUri (← v.supported) version)

end Versions

end CloudSession.VCloud
