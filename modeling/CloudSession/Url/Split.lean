import CloudSession.Text.NumberText
import CloudSession.Url.Ipv6

/-! # Parts of a url

A url is cut at its marks: the scheme before the first colon, the authority behind two slashes,
then path, query and fragment. Nothing is decoded.
-/

namespace CloudSession.Url

inductive UrlError where
  | bracket
  /-- What stands in brackets is no address. -/
  | bracketed
  /-- The authority has characters that stand for marks of a url. -/
  | disguised
  /-- The port is no number up to 65535. -/
  | port
  | nul
  deriving Repr, DecidableEq

/-- A url taken apart; the authority is empty when there is none. -/
structure Parts where
  scheme : String
  authority : String
  path : String
  query : String
  fragment : String
  deriving Repr, DecidableEq

/-- What stands before the first `mark`, and what follows it. -/
def cut (mark : Char) (cs : List Char) : List Char × Option (List Char) :=
  (cs.takeWhile (· ≠ mark), (cs.dropWhile (· ≠ mark)).tail?)

/-- What stands before the last `mark`, and what follows it or the whole. -/
def cutLast (mark : Char) (cs : List Char) : Option (List Char) × List Char :=
  let back := (cs.reverse.takeWhile (· ≠ mark)).reverse
  let front := cs.reverse.dropWhile (· ≠ mark)
  (front.tail?.map List.reverse, back)

/-- Leading controls and blanks do not count, nor do tabs and line ends anywhere. -/
def tidy (cs : List Char) : List Char :=
  (cs.dropWhile fun c => c.toNat ≤ 32).filter fun c => c ≠ '\t' && c ≠ '\r' && c ≠ '\n'

def isSchemeChar (c : Char) : Bool := c.isAlphanum || c == '+' || c == '-' || c == '.'

/-- The scheme in lower case, and what follows it. -/
def splitScheme (cs : List Char) : List Char × List Char :=
  match cut ':' cs with
  | (c :: name, some rest) =>
    if c.isAlpha && (c :: name).all isSchemeChar then ((c :: name).map Char.toLower, rest)
    else ([], cs)
  | _ => ([], cs)

/-- The authority behind two slashes, and what follows it. -/
def splitAuthority (cs : List Char) : List Char × List Char :=
  match cs with
  | '/' :: '/' :: rest =>
    let inside := fun c => c ≠ '/' && c ≠ '?' && c ≠ '#'
    (rest.takeWhile inside, rest.dropWhile inside)
  | _ => ([], cs)

/-- Characters that stand for a slash, a question mark, a hash, an at sign or a colon. -/
def disguises : List Nat :=
  [0x2047, 0x2048, 0x2049, 0x2100, 0x2101, 0x2105, 0x2106, 0x2A74, 0xFE13, 0xFE16, 0xFE55, 0xFE56,
   0xFE5F, 0xFE6B, 0xFF03, 0xFF0F, 0xFF1A, 0xFF1F, 0xFF20]

/-- An address of a later version: `v`, hexadecimal digits, a point and something more. -/
def isFutureAddress (cs : List Char) : Bool :=
  match cs with
  | 'v' :: rest =>
    let isHex := fun c => (Ipv4.digit? 16 c).isSome
    match rest.takeWhile isHex, rest.dropWhile isHex with
    | _ :: _, '.' :: _ :: _ => true
    | _, _ => false
  | _ => false

/-- The host of an authority that has brackets somewhere: what stands in them, or what stands
before the port where the brackets belong to the user. Nothing may stand before the brackets of a
host, and behind them nothing but a port. -/
def bracketedHost? (authority : List Char) : Option (List Char) :=
  let place := (cutLast '@' authority).2
  match cut '[' place with
  | (before, some inside) =>
    let (host, after) := cut ']' inside
    let sound := before.isEmpty && (after.getD []).head?.all (· == ':')
    if sound then some host else none
  | (place, none) => some (cut ':' place).1

/-- The brackets of an authority come in a pair, and its host is an address. -/
def checkBrackets (authority : List Char) : Except UrlError Unit :=
  let opens := authority.contains '['
  let closes := authority.contains ']'
  if opens != closes then .error .bracket
  else if opens then
    match bracketedHost? authority with
    | none => .error .bracketed
    | some host =>
      let sound :=
        if host.head? = some 'v' then isFutureAddress host else isIpv6 (String.ofList host)
      if sound then .ok () else .error .bracketed
  else .ok ()

def split (url : String) : Except UrlError Parts := do
  let (scheme, rest) := splitScheme (tidy url.toList)
  let (authority, rest) := splitAuthority rest
  checkBrackets authority
  let (rest, fragment) := cut '#' rest
  let (path, query) := cut '?' rest
  if authority.any fun c => disguises.contains c.toNat then throw .disguised
  return ⟨String.ofList scheme, String.ofList authority, String.ofList path,
    String.ofList (query.getD []), String.ofList (fragment.getD [])⟩

namespace Parts

/-- Who the authority names before its last at sign. -/
def userInfo? (p : Parts) : Option String :=
  (cutLast '@' p.authority.toList).1.map String.ofList

def hostAndPort (p : Parts) : List Char × List Char :=
  let place := (cutLast '@' p.authority.toList).2
  match cut '[' place with
  | (_, some bracketed) =>
    let (host, rest) := cut ']' bracketed
    (host, ((cut ':' (rest.getD [])).2).getD [])
  | (_, none) =>
    let (host, port) := cut ':' place
    (host, port.getD [])

/-- The host in lower case, its zone as it is written; none when it is empty. -/
def hostname? (p : Parts) : Option String :=
  match p.hostAndPort.1 with
  | [] => none
  | host =>
    let name := host.takeWhile (· ≠ '%')
    some (Text.lower (String.ofList name) ++ String.ofList (host.dropWhile (· ≠ '%')))

/-- The port; none when there is none. -/
def port? (p : Parts) : Except UrlError (Option Nat) :=
  match p.hostAndPort.2 with
  | [] => .ok none
  | digits =>
    let n := (Ipv4.digits 10 0 digits).1
    if digits.all Char.isDigit && digits.length ≤ Text.mostDigits && n ≤ 65535 then .ok (some n)
    else .error .port

end Parts

end CloudSession.Url
