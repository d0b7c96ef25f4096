import CloudSession.Fault

/-! # Sessions

The outcome of a login: the token that signs requests, and a directory of what the credential may
reach. A session is not changed once it is built; renewing it builds another.
-/

namespace CloudSession

structure Session where
  token : Value
  directory : Fields Value
  created : Number

namespace Session

/-- Two sessions are equal when token and directory are; when they were created does not count. -/
def eq (s t : Session) : Bool :=
  s.token == t.token && Value.pairs s.directory == Value.pairs t.directory

instance : BEq Session := ⟨eq⟩

/-- How a session is written in a log: without its token. -/
def describe (s : Session) : String :=
  "<AuthSession directory=" ++ Value.quoted (.list (s.directory.sortedNames.map .text)) ++
    " created=" ++ s.created.text ++ ">"

/-- Ways to write to a finished session. -/
inductive Write where
  | token
  | directory

/-- How a write to a finished session is refused. -/
def Write.refusal : Write → FaultKind
  | .token => .attribute
  | .directory => .type

end Session

end CloudSession
