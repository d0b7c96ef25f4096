import CloudSession.Url.Ipv4

/-! # IPv6 addresses

Eight groups of up to four hexadecimal digits, where one run of groups may be left out as `::` and
the last two may be written as four decimal bytes. A zone may follow behind a percent sign.
-/

namespace CloudSession.Url.Ipv6

/-- Parts of a text between separators. -/
def pieces (separator : Char) : List Char → List (List Char)
  | [] => [[]]
  | c :: rest =>
    if c = separator then [] :: pieces separator rest
    else match pieces separator rest with
      | [] => [[c]]
      | part :: parts => (c :: part) :: parts

/-- A decimal byte without leading zeros. -/
def isByte (cs : List Char) : Bool :=
  !cs.isEmpty && cs.length ≤ 3 && cs.all Char.isDigit && (cs == ['0'] || cs.head? ≠ some '0') &&
    (Ipv4.digits 10 0 cs).1 < 256

def isDotted (cs : List Char) : Bool :=
  let bytes := pieces '.' cs
  bytes.length == 4 && bytes.all isByte

def isGroup (cs : List Char) : Bool :=
  !cs.isEmpty && cs.length ≤ 4 && cs.all fun c => (Ipv4.digit? 16 c).isSome

/-- The parts between colons, with a dotted end counted as two groups. -/
def groups? (cs : List Char) : Option (List (List Char)) :=
  let parts := pieces ':' cs
  if parts.length < 3 then none
  else match parts.getLast? with
    | none => none
    | some last =>
      if last.contains '.' then
        if isDotted last then some (parts.dropLast ++ [['0'], ['0']]) else none
      else some parts

/-- Whether groups before and after a gap make up an address: an end that is empty must touch the
gap. -/
def aroundGap (before after : List (List Char)) : Bool :=
  let front := if before.head? = some [] then before.tail else before
  let back := if after.getLast? = some [] then after.dropLast else after
  (front.isEmpty || front == before) && (back.isEmpty || back == after) &&
    front.length + back.length < 8 && (front ++ back).all isGroup

/-- Whether an address without a zone is well formed. -/
def isAddress (cs : List Char) : Bool :=
  match groups? cs with
  | none => false
  | some parts =>
    if parts.length > 9 then false
    else
      let inner := parts.tail.dropLast
      let gaps := inner.countP List.isEmpty
      if gaps > 1 then false
      else if gaps = 1 then
        let gap := inner.findIdx List.isEmpty + 1
        aroundGap (parts.take gap) (parts.drop (gap + 1))
      else parts.length == 8 && parts.all isGroup

end Ipv6

/-- Whether a host is an IPv6 address, with a zone or without one. -/
def isIpv6 (host : String) : Bool :=
  let cs := host.toList
  if cs.contains '/' then false
  else
    let address := cs.takeWhile (· ≠ '%')
    match cs.dropWhile (· ≠ '%') with
    | [] => Ipv6.isAddress address
    | _ :: zone => !zone.isEmpty && !zone.contains '%' && Ipv6.isAddress address

end CloudSession.Url
