/-! # IPv4 addresses

An address is one to four numbers with points between them, written in decimal, in octal behind a
zero or in hexadecimal behind `0x`. The last number fills all the bytes that are left. White space
ends the address, and what follows it is ignored.
-/

namespace CloudSession.Url.Ipv4

/-- White space that ends an address. -/
def isSpace (c : Char) : Bool :=
  c == ' ' || ('\t' ≤ c && c ≤ '\r')

/-- The value of a digit in any base up to sixteen. -/
def digit? (base : Nat) (c : Char) : Option Nat :=
  let value? :=
    if '0' ≤ c && c ≤ '9' then some (c.toNat - '0'.toNat)
    else if 'a' ≤ c && c ≤ 'f' then some (c.toNat - 'a'.toNat + 10)
    else if 'A' ≤ c && c ≤ 'F' then some (c.toNat - 'A'.toNat + 10)
    else none
  value?.filter (· < base)

/-- Read digits of a base for as long as they last. -/
def digits (base : Nat) (acc : Nat) : List Char → Nat × List Char
  | [] => (acc, [])
  | c :: rest =>
    match digit? base c with
    | some d => digits base (acc * base + d) rest
    | none => (acc, c :: rest)

def number? (cs : List Char) : Option (Nat × List Char) :=
  match cs with
  | '0' :: x :: h :: rest =>
    if (x == 'x' || x == 'X') && (digit? 16 h).isSome then some (digits 16 0 (h :: rest))
    else some (digits 8 0 cs)
  | '0' :: _ => some (digits 8 0 cs)
  | c :: _ => if '1' ≤ c && c ≤ '9' then some (digits 10 0 cs) else none
  | [] => none

/-- Whether `cs` is an address of at most `left` numbers behind its first one. -/
def numbers : (left : Nat) → List Char → Bool
  | left, cs =>
    match number? cs with
    | none => false
    | some (n, rest) =>
      match left, rest with
      | l + 1, '.' :: rest => n < 256 && numbers l rest
      | l, [] => n < Nat.pow 256 (l + 1)
      | l, c :: _ => isSpace c && n < Nat.pow 256 (l + 1)

end Ipv4

def isIpv4 (host : String) : Bool := Ipv4.numbers 3 host.toList

end CloudSession.Url
