import CloudSession.Http.Headers

/-! # Requests

A request is a value: whoever changes one, such as a filter that signs it, makes another and leaves
the first as it was. A command is a request on its way through its attempts.
-/

namespace CloudSession

structure Request where
  method : String := "GET"
  endpoint : Value
  headers : Headers := []
  payload : Value := .null
  params : Option (Fields Value) := none

namespace Request

def withHeader (r : Request) (name value : Value) : Request :=
  { r with headers := r.headers.put name value }

/-- As `withHeader`; none when `name` cannot name a header. -/
def withHeader? (r : Request) (name value : Value) : Option Request :=
  if name.isName then some (r.withHeader name value) else none

def title (r : Request) : String := r.method ++ " " ++ r.endpoint.display

end Request

/-- A request with the form it is sent in and the failures counted for it. -/
structure Command where
  asked : Request
  current : Request
  failures : Int := 0

namespace Command

def of (r : Request) : Command := { asked := r, current := r }

def failed (c : Command) : Command := { c with failures := c.failures + 1 }

def title (c : Command) : String :=
  "[request=" ++ c.current.title ++ ", failures=" ++ Number.intText c.failures ++ "]"

end Command

end CloudSession
