import CloudSession.Text.Template

/-! # Problems

What this library reports on its own account. Each problem has a message template that its details
fill in; a template that cannot be filled stands as it is.
-/

namespace CloudSession

inductive Problem where
  | general
  /-- The provider rejects the credential outright. -/
  | authorization
  /-- A fetch kept timing out past its attempts or its deadline. -/
  | sessionTimeout
  | httpResponse
  /-- The provider answers that there is no such resource. -/
  | resourceNotFound
  /-- The state of the provider or of the settings does not permit the operation. -/
  | illegalState
  | providerNotFound
  deriving Repr, DecidableEq

namespace Problem

def all : List Problem :=
  [.general, .authorization, .sessionTimeout, .httpResponse, .resourceNotFound, .illegalState,
   .providerNotFound]

/-- The message a problem has unless it is given another. -/
def template : Problem → String
  | .general => "An unknown exception occurred"
  | .authorization => "Not authorized: %(reason)s"
  | .sessionTimeout => "Timed out fetching %(name)s after %(attempts)s attempt(s)"
  | .httpResponse => "request %(request)s failed with code %(status)s, content: %(content)s"
  | .resourceNotFound => "resource not found for request %(request)s: %(content)s"
  | .illegalState => "Illegal state: %(reason)s"
  | .providerNotFound => "The provider '%(provider)s' was not found."

/-- Whether every problem of the first sort is also one of the second. -/
def isA : Problem → Problem → Bool
  | _, .general => true
  | .resourceNotFound, .httpResponse => true
  | p, q => p == q

/-- Whether a problem tells of a response. -/
def tellsResponse (p : Problem) : Bool := p.isA .httpResponse

/-- The message in use: an empty one gives way to the template. -/
def chosen (p : Problem) (message : Value) : Value :=
  if message.holds then message else .text p.template

/-- The message with its details filled in, or why they cannot be. -/
def fill (message : Value) (details : Fields Value) : Except Text.Template.Failure String :=
  match message with
  | .text template => Text.Template.fill template details
  | _ => .error .mismatch

/-- The text of a problem, or why its message cannot be filled in. -/
def strictText (p : Problem) (message : Value) (details : Fields Value) :
    Except Text.Template.Failure String :=
  fill (p.chosen message) details

def text (p : Problem) (message : Value) (details : Fields Value) : String :=
  match p.strictText message details with
  | .ok s => s
  | .error _ => (p.chosen message).display

end Problem

end CloudSession
