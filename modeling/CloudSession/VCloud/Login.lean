import CloudSession.Http.Client
import CloudSession.Session
import CloudSession.Text.Base64
import CloudSession.VCloud.Versions

/-! # vCloud login

A login carries basic credentials. The token comes back as a cookie or as a header, and the body
may list the organisations of the credential; reading that list is up to the caller.
-/

namespace CloudSession.VCloud

/-- Basic credentials as a header writes them. -/
def basicAuth (user password : Value) : String :=
  "Basic " ++
    String.ofList (Text.Base64.encode (Text.utf8 (user.display ++ ":" ++ password.display)))

/-- The token of a reply: the cookie, or else the header. -/
def tokenOf (r : Response) : Except FaultKind (Option String) := do
  match ← r.cookie? Defaults.vcloudCookie with
  | some token => return some token
  | none => return r.header? Defaults.vcloudHeader

/-- Reads no organisations out of any reply. -/
def noOrgs : Reader := fun _ => .ok (some [])

structure Login (σ : Type) where
  client : Client σ
  uri : Act σ Value
  user : Value
  password : Value
  orgs : Reader := noOrgs
  timeout : Value := .int Defaults.loginTimeout

namespace Login

variable {σ : Type}

def request (l : Login σ) (uri : Value) : Request where
  method := "POST"
  endpoint := uri
  headers := [(.text "Authorization", .text (basicAuth l.user l.password))]

def noToken (request : Request) (status : Int) : FaultHead :=
  .ofProblem .httpResponse
    [("request", .text request.title), ("status", .int status), ("content", .null)]
    (.text "No vcloud token in reply to %(request)s")

variable [Wired σ]

def loginAt (l : Login σ) (uri : Value) : Act σ Session := do
  let request := l.request uri
  let response ← Wire.response (← l.client.execute request l.timeout)
  match tokenOf response with
  | .error kind => Act.failKind kind
  | .ok token =>
    match token.filter (!·.isEmpty) with
    | none => Act.fail (noToken request response.status)
    | some token =>
      match l.orgs response with
      | .error kind => Act.failKind kind
      | .ok none => Act.failKind .type
      | .ok (some orgs) => return ⟨.text token, orgs, .real (← Act.now)⟩

def login (l : Login σ) : Act σ Session := do l.loginAt (← l.uri)

end Login

/-- How a provider wants the token of a request. -/
inductive TokenStyle where
  | cookie
  | header
  deriving Repr, DecidableEq

namespace TokenStyle

/-- The style of a name; every other name asks for a cookie. -/
def named : Value → TokenStyle
  | .text "header" => .header
  | _ => .cookie

/-- The header the token travels in. -/
def carrier : TokenStyle → String
  | .cookie => "Cookie"
  | .header => Defaults.vcloudHeader

/-- What that header holds. -/
def carried (style : TokenStyle) (token : Value) : Value :=
  match style with
  | .cookie => .text (Defaults.vcloudCookie ++ "=" ++ token.display)
  | .header => token

end TokenStyle

def sign {σ : Type} (style : TokenStyle) (token : Act σ Value) : Filter σ := fun request =>
  return request.withHeader (.text style.carrier) (style.carried (← token))

end CloudSession.VCloud
