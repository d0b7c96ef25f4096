import CloudSession.Http.Codec

/-! # Responses

What a server answers. A body is at hand, or it comes in chunks that can be taken once; whoever
reads it to the end has consumed it, and releasing the response drops what was not read.
-/

namespace CloudSession

inductive Body where
  | loaded (bytes : List UInt8)
  | pending (chunks : List (List UInt8))
  /-- Released before it was read to the end. -/
  | dropped
  | consumed

structure Cookie where
  name : String
  value : String
  domain : String := ""

/-- The value a cookie is kept with: a value in quotes loses the quotes that are escaped in it. -/
def Cookie.kept (c : Cookie) : String :=
  let cs := c.value.toList
  if cs.head? = some '"' && cs.getLast? = some '"' then String.ofList (dropEscaped cs) else c.value
where
  dropEscaped : List Char → List Char
    | '\\' :: '"' :: rest => dropEscaped rest
    | c :: rest => c :: dropEscaped rest
    | [] => []

structure Response where
  status : Int := 200
  body : Body := .loaded []
  /-- How the line fails behind the last chunk. -/
  breaks : Option FaultPlan := none
  /-- How releasing the response fails. -/
  closeFails : Option FaultPlan := none
  /-- The name of the charset that was announced. -/
  charset : Option String := some "utf-8"
  /-- The codecs of the program that reads the body. -/
  codecs : Codecs := .standard
  /-- The name of the charset that a body looks to be in, where none was announced. -/
  guess : List UInt8 → Option String := fun _ => none
  headers : List (String × String) := []
  cookies : List Cookie := []
  /-- What a reader of the org list makes of the body. -/
  orgs : Option (Fields Value) := some []
  /-- What a reader of the version list makes of the body. -/
  versions : Option (Fields Value) := some []
  releases : Nat := 0

namespace Response

/-- The value of a header; case does not count, and the last mention does. -/
def header? (r : Response) (name : String) : Option String :=
  (r.headers.findRev? fun (n, _) => Text.lower n == Text.lower name).map Prod.snd

/-- Cookies of a name, one for each domain, the last one set. -/
def cookiesNamed (r : Response) (name : String) : List Cookie :=
  (r.cookies.filter (·.name == name)).foldl
    (fun kept c => (kept.filter (·.domain ≠ c.domain)) ++ [c]) []

/-- The value of a cookie; an empty one is absent, and two domains are in conflict. -/
def cookie? (r : Response) (name : String) : Except FaultKind (Option String) :=
  match r.cookiesNamed name with
  | [] => .ok none
  | [c] => .ok (if c.kept.isEmpty then none else some c.kept)
  | _ => .error (.line .cookieConflict)

def released (r : Response) : Response :=
  { r with
    releases := r.releases + 1
    body := match r.body with
      | .pending _ => .dropped
      | body => body }

end Response

end CloudSession
