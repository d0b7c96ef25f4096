import CloudSession.Http.Client
import CloudSession.Session
import CloudSession.Url.Join

/-! # OpenStack login

User and key go out as headers; the token and the endpoints of the services come back as headers.
-/

namespace CloudSession.OpenStack

structure Login (σ : Type) where
  client : Client σ
  endpoint : Value
  user : Value
  key : Value
  apiVersion : Value := .text "1.0"
  timeout : Value := .int Defaults.loginTimeout

/-- Response headers that name a service endpoint, with the directory entry of the service. -/
def services : List (String × String) :=
  [(Defaults.managementUrlHeader, "compute"), (Defaults.storageUrlHeader, "object-store"),
    (Defaults.cdnUrlHeader, "cdn")]

def directoryOf (r : Response) : Fields Value :=
  services.filterMap fun (header, service) =>
    ((r.header? header).filter (!·.isEmpty)).map fun url => (service, .text url)

namespace Login

variable {σ : Type}

/-- Where to log in; none when the endpoint is no text. -/
def url? (l : Login σ) : Option String :=
  Url.join? l.endpoint [.text ("v" ++ l.apiVersion.display)]

def request (l : Login σ) (url : String) : Request where
  endpoint := .text url
  headers := [(.text Defaults.userHeader, l.user), (.text Defaults.keyHeader, l.key)]

def noToken (request : Request) (status : Int) : FaultHead :=
  .ofProblem .httpResponse
    [("header", .text Defaults.tokenHeader), ("request", .text request.title),
      ("status", .int status), ("content", .null)]
    (.text "No %(header)s header in reply to %(request)s")

variable [Wired σ]

def authenticate (l : Login σ) : Act σ Session := do
  let request := l.request (← Act.demand l.url? .attribute)
  let response ← Wire.response (← l.client.execute request l.timeout)
  match (response.header? Defaults.tokenHeader).filter (!·.isEmpty) with
  | none => Act.fail (noToken request response.status)
  | some token => return ⟨.text token, directoryOf response, .real (← Act.now)⟩

end Login

def sign {σ : Type} (header : Value) (session : Act σ Session) : Filter σ := fun request => do
  Act.demand (request.withHeader? header (← session).token) .type

end CloudSession.OpenStack
