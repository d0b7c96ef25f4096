import CloudSession.Number

/-! # Decimal text of a number

A value is held as a positive fraction. Its shortest decimal is the one with the fewest digits
that still lies among the reals read as that double; a decimal of given length is the nearest one,
a half going to the even neighbour.
-/

namespace CloudSession

/-- `digits` times ten to `exponent`. -/
structure Decimal where
  digits : Nat
  exponent : Int
  deriving Repr, DecidableEq

namespace Decimal

def text (n : Nat) : String := String.ofList (Nat.toDigits 10 n)

def length (n : Nat) : Nat := (Nat.toDigits 10 n).length

/-- `b ^ k` as a fraction. -/
def power (b : Nat) (k : Int) : Nat × Nat :=
  if 0 ≤ k then (Nat.pow b k.toNat, 1) else (1, Nat.pow b (-k).toNat)

/-- `num / den` in units of `10 ^ p`, as a fraction. -/
def inUnits (num den : Nat) (p : Int) : Nat × Nat :=
  let (up, down) := power 10 p
  (num * down, den * up)

/-- The exponent of the first digit of `num / den > 0`. -/
def magnitude (num den : Nat) : Int :=
  if den ≤ num then (length (num / den) : Int) - 1
  else -((length ((den + num - 1) / num - 1) : Nat) : Int)

/-- The whole number nearest to `num / den`, a half going to the even one. -/
def nearest (num den : Nat) : Nat :=
  let q := num / den
  let r := num % den
  if 2 * r < den || (2 * r == den && q % 2 == 0) then q else q + 1

/-- Take trailing zeros off the digits. -/
def trim (d : Decimal) : Decimal :=
  go (length d.digits) d
where
  go : Nat → Decimal → Decimal
    | 0, d => d
    | fuel + 1, d =>
      if d.digits ≠ 0 && d.digits % 10 == 0 then go fuel ⟨d.digits / 10, d.exponent + 1⟩ else d

/-- Four times the distances from `m` units to the ends of the reals read as this double, below
and above: the gap below a power of two is half as wide. -/
def gaps (m : Nat) (e : Int) : Nat × Nat := (if m = Nat.pow 2 52 && e ≠ -1074 then 1 else 2, 2)

/-- Whether `d` times `10 ^ p` is read as the double of `m` units of `2 ^ e`. -/
def reads (m : Nat) (e : Int) (d : Nat) (p : Int) : Bool :=
  let (tenUp, tenDown) := power 10 p
  let (twoUp, twoDown) := power 2 (e - 2)
  let point := d * tenUp * twoDown
  let unit := twoUp * tenDown
  let (below, above) := gaps m e
  if m % 2 == 0 then (4 * m - below) * unit ≤ point && point ≤ (4 * m + above) * unit
  else (4 * m - below) * unit < point && point < (4 * m + above) * unit

/-- The decimal of the fewest digits that is read as the double of `m > 0` units of `2 ^ e`. -/
def shortest (m : Nat) (e : Int) : Decimal :=
  let (up, down) := power 2 e
  let (num, den) := (m * up, down)
  let first := magnitude num den
  let candidate (n : Nat) : Option Decimal :=
    let p := first - n
    let (a, b) := inUnits num den p
    let low := a / b
    match reads m e low p, reads m e (low + 1) p with
    | true, true => some ⟨nearest a b, p⟩
    | true, false => some ⟨low, p⟩
    | false, true => some ⟨low + 1, p⟩
    | false, false => none
  ((List.range 17).findSome? candidate).getD ⟨m, e⟩ |>.trim

/-- The decimal of `places + 1` digits nearest to `num / den > 0`. -/
def rounded (num den places : Nat) : Decimal :=
  let first := magnitude num den
  let (a, b) := inUnits num den (first - places)
  let d := nearest a b
  if length d = places + 2 then ⟨d / 10, first - places + 1⟩ else ⟨d, first - places⟩

def lead (d : Decimal) : Int := d.exponent + (length d.digits : Int) - 1

def zeros (n : Nat) : String := String.ofList (List.replicate n '0')

/-- `n` with `places` digits behind the point; `point` keeps the point when there are none. -/
def fixedText (n places : Nat) (point : Bool) : String :=
  let digits := text n
  let digits :=
    if digits.length ≤ places then zeros (places + 1 - digits.length) ++ digits else digits
  let cs := digits.toList
  let cut := cs.length - places
  let behind := String.ofList (cs.drop cut)
  String.ofList (cs.take cut) ++ (if places = 0 && !point then "" else ".") ++ behind

/-- An exponent with a sign and at least two digits. -/
def exponentText (mark : Char) (k : Int) : String :=
  let size := text k.natAbs
  mark.toString ++ (if k < 0 then "-" else "+") ++ (if size.length < 2 then "0" ++ size else size)

/-- One digit before the point and the rest behind it, then the exponent. -/
def scientificText (d : Decimal) (mark : Char) (point : Bool) : String :=
  fixedText d.digits (length d.digits - 1) point ++ exponentText mark d.lead

/-- How a double is written by default: positional from `10 ^ -4` up to below `10 ^ 16`, always
with a mark that it is no whole number. -/
def plain (d : Decimal) : String :=
  let k := d.lead
  if k < -4 || 16 ≤ k then d.scientificText 'e' false
  else if 0 ≤ d.exponent then text (d.digits * Nat.pow 10 d.exponent.toNat) ++ ".0"
  else fixedText d.digits (-d.exponent).toNat false

end Decimal

namespace Number

def floatText (x : Float) : String :=
  match Scaled.ofFloat x with
  | .undefined => "nan"
  | .infinite negative => if negative then "-inf" else "inf"
  | .finite negative m e =>
    (if negative then "-" else "") ++ (if m = 0 then "0.0" else (Decimal.shortest m e).plain)

def intText (n : Int) : String := (if n < 0 then "-" else "") ++ Decimal.text n.natAbs

def text : Number → String
  | .whole n => intText n
  | .real x => floatText x
  | .minusUndefined => "nan"

end Number

end CloudSession
