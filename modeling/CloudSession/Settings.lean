import CloudSession.Defaults
import CloudSession.Provider
import CloudSession.Settings.Parser
import CloudSession.Text.NumberText
import CloudSession.Url.Hostname

/-! # Settings

Options come in groups, each with a kind and a default. Files give values as text; when an option
is asked for, the references in its text are followed, and what comes of it is read by the kind of
the option. Files are searched for once: the sessions and the transport have a file of the library,
a provider has a group of its own.
-/

namespace CloudSession

inductive OptionKind where
  | whole
  | real
  | text
  | truth
  deriving Repr, DecidableEq

namespace OptionKind

/-- A truth value in one of its spellings. -/
def readTruth? (s : String) : Option Bool :=
  let word := Text.lower s
  if ["true", "1", "on", "yes"].contains word then some true
  else if ["false", "0", "off", "no"].contains word then some false
  else none

/-- The value a text gives. A number that is left empty has none. -/
def read (kind : OptionKind) (s : String) : Option Value :=
  match kind with
  | .text => some (.text s)
  | .truth => (readTruth? s).map .bool
  | .whole =>
    if (Text.strip s).isEmpty then some .null else (Text.readWhole? s).map .int
  | .real =>
    if (Text.strip s).isEmpty then some .null else (Text.readReal? s).map .number

end OptionKind

/-- An option: its name, its kind, and its value where no file gives one. -/
structure OptionSpec where
  name : String
  kind : OptionKind
  default : Value

namespace OptionSpec

/-- Whether two options of a name are the same option. -/
def agrees (a b : OptionSpec) : Bool :=
  a.name == b.name && a.kind == b.kind && a.default == b.default

/-- The value of an option that no text gives: the default, as a text where the option is one. -/
def standard (spec : OptionSpec) : Value :=
  match spec.kind, spec.default with
  | _, .null => .null
  | .text, v => .text v.display
  | _, v => v

end OptionSpec

def sessionOptions : List OptionSpec :=
  [⟨"session_interval", .whole, .int Defaults.sessionInterval⟩,
    ⟨"login_timeout", .whole, .int Defaults.loginTimeout⟩,
    ⟨"versions_timeout", .whole, .int Defaults.versionsTimeout⟩,
    ⟨"fetch_attempts", .whole, .int Defaults.fetchAttempts⟩,
    ⟨"lease_renew_marker", .text, .text Defaults.leaseMarker⟩,
    ⟨"auth_user_header", .text, .text Defaults.userHeader⟩,
    ⟨"auth_key_header", .text, .text Defaults.keyHeader⟩,
    ⟨"auth_token_header", .text, .text Defaults.tokenHeader⟩,
    ⟨"max_payload_bytes", .whole, .int Defaults.maxPayloadBytes⟩,
    ⟨"green", .truth, .bool false⟩]

def httpOptions : List OptionSpec :=
  [⟨"max_retries", .whole, .int Defaults.maxRetries⟩,
    ⟨"retry_delay_start", .real, .number Defaults.retryDelayStart⟩,
    ⟨"timeout", .whole, .int Defaults.httpTimeout⟩,
    ⟨"insecure", .truth, .bool false⟩,
    ⟨"cacert", .text, .null⟩]

def providerOptions (p : Provider) : List OptionSpec :=
  [⟨"endpoint", .text, p.endpoint⟩,
    ⟨"api_version", .text, p.apiVersion⟩,
    ⟨"login_endpoint", .text, .null⟩,
    ⟨"identity", .text, .null⟩,
    ⟨"credential", .text, .null⟩]

/-- Where settings files are found: for a project and a program, the paths of the files. -/
abbrev Search := Option String → Option String → List String

/-- A settings file by its path; none when there is no such file. -/
abbrev Files := String → Option String

structure Settings where
  groups : Fields (List OptionSpec) := [("session", sessionOptions), ("http", httpOptions)]
  parser : Settings.Parser := .ini
  /-- What is in the files that were read, in order. -/
  contents : List String := []
  loaded : Bool := false
  given : List String := []

namespace Settings

/-- Each path once, where it first appears. -/
def distinct (paths : List String) : List String :=
  paths.foldl (fun kept path => if kept.contains path then kept else kept ++ [path]) []

/-- The searches for a project: pairs of project and program. -/
def searches (project program : Option String) : List (Option String × Option String) :=
  if project.any fun name => "vcompute-".toList.isPrefixOf name.toList then
    [(some "vcompute", project)]
  else [(project, program <|> project), (some "vcompute", some "vcompute")]

/-- What is in files, one after another. A malformed file is told before a missing one. -/
def readFiles (parser : Parser) (files : Files) (paths : List String) :
    Except SettingsFault (List String) :=
  let contents := paths.filterMap files
  if !contents.all parser.wellFormed then .error .unparsable
  else if paths.any fun path => (files path).isNone then .error .missingFile
  else .ok contents

/-- What reading the settings leads to: the fault if it failed, and the searches that were made. -/
structure Loading where
  settings : Settings
  fault : Option SettingsFault := none
  asked : List (Option String × Option String) := []

/-- Read the settings of a project, unless settings were read before. `order` brings the files
that were found into the order they are read in. -/
def load (s : Settings) (search : Search) (files : Files) (order : List String → List String)
    (project program : Option String) : Loading :=
  if s.loaded then { settings := s }
  else
    let asked := searches project program
    let found := order (distinct (asked.flatMap fun (project, program) => search project program))
    match readFiles s.parser files found with
    | .ok contents =>
      { settings := { s with contents := contents, loaded := true, given := found }
        asked := asked }
    | .error fault =>
      { settings := { s with contents := [], given := found }
        fault := some fault
        asked := asked }

/-- The text the files give an option. -/
def given? (s : Settings) (group name : String) : Option String :=
  s.parser.text? s.contents group name

def spec? (s : Settings) (group name : String) : Option OptionSpec :=
  (s.groups.get? group).bind fun specs => specs.find? (·.name == name)

/-- What a reference in an option of `group` stands for, where `read` gives the value of an option.
A name may begin with a group and a point. A name that no option has must not be that of a group,
which is no text. -/
def referred (s : Settings) (read : (group name : String) → Except SettingsFault Value)
    (group name : String) : Except SettingsFault String :=
  let isGroup := fun name => s.groups.names.contains name
  let found := match Url.cut '.' name.toList with
    | (_, none) => read group name
    | (other, some name) =>
      let other := String.ofList other
      if isGroup other then read other (String.ofList name) else .error .unknownGroup
  match found with
  | .ok .null => .ok ""
  | .ok v => .ok v.display
  | .error .unknownOption => .error (if isGroup name then .groupReference else .unknownOption)
  | .error fault => .error fault

/-- The value of an option, behind at most `depth` references in a row. -/
def find (s : Settings) : (depth : Nat) → (group name : String) → Except SettingsFault Value
  | 0, _, _ => .error .circular
  | depth + 1, group, name => do
    let some spec := s.spec? group name | throw .unknownOption
    let written := match s.given? group name, spec.default with
      | some text, _ => some text
      | none, .text text => some text
      | none, _ => none
    match written with
    | some text =>
      let text ← s.parser.expand (s.referred (find s depth) group) text
      let some v := spec.kind.read text | throw .badValue
      return v
    | none => return spec.standard

def size (s : Settings) : Nat := s.groups.foldl (fun n (_, specs) => n + specs.length) 0

/-- The value of an option. References that do not run in a circle meet every option once at
most. -/
def get (s : Settings) (group name : String) : Except SettingsFault Value :=
  s.find (s.size + 1) group name

/-- Add an option to a group; an option of that name must be the same. -/
def addOption (specs : List OptionSpec) (spec : OptionSpec) :
    Except SettingsFault (List OptionSpec) :=
  match specs.find? (·.name == spec.name) with
  | none => .ok (specs ++ [spec])
  | some known => if known.agrees spec then .ok specs else .error .duplicateOption

def register (s : Settings) (p : Provider) : Except SettingsFault Settings := do
  let specs ← (providerOptions p).foldlM addOption ((s.groups.get? p.id).getD [])
  return { s with groups := s.groups.put p.id specs }

def options (s : Settings) (group : String) : Except SettingsFault (Fields Value) :=
  ((s.groups.get? group).getD []).mapM fun spec => return (spec.name, ← s.get group spec.name)

/-- Options of the transport that every provider takes over. -/
def httpNames : List String := ["max_retries", "retry_delay_start", "timeout"]

def settingsFault {α : Type} : Except SettingsFault α → Except FaultPlan α
  | .ok a => .ok a
  | .error s => .error (.ofKind (.ofSettings s))

/-- The endpoint of a provider: with its host named in full where servers are checked. -/
def endpoint (names : Url.Names) (insecure endpoint : Value) : Except FaultPlan Value :=
  match insecure, endpoint with
  | .bool false, .text url => (Url.withHostname names url).map .text
  | _, endpoint => .ok endpoint

/-- What a provider is built from: its own options, those of the transport and those of the
sessions. Registers the group of the provider. -/
def build (s : Settings) (names : Url.Names) (p : Provider) :
    Settings × Except FaultPlan (Fields Value) :=
  match s.register p with
  | .error fault => (s, .error (.ofKind (.ofSettings fault)))
  | .ok s =>
    let own (group name : String) : Except FaultPlan (String × Value) :=
      return (name, ← settingsFault (s.get group name))
    let result : Except FaultPlan (Fields Value) := do
      let provider ← ["identity", "credential", "api_version", "login_endpoint"].mapM (own p.id)
      let cacert ← own "http" "cacert"
      let insecure ← own "http" "insecure"
      let address ← own p.id "endpoint"
      let address ← endpoint names insecure.2 address.2
      let http ← httpNames.mapM (own "http")
      let session ← (sessionOptions.map (·.name)).mapM (own "session")
      return Entries.ofList
        (provider ++ [cacert, insecure, ("endpoint", address)] ++ http ++ session)
    (s, result)

end Settings

end CloudSession
