import CloudSession.Number
import CloudSession.Text.Blank
import CloudSession.Text.Digit
import CloudSession.Text.LowerCase

/-! # Numbers read from text

A number may have blanks around it, a sign, digits of any script, and single underscores between
digits. The controls that end a unit are no blanks here. A double may have a point and an exponent,
or be infinite or undefined; a whole number has a limited count of digits.
-/

namespace CloudSession.Text

/-- Blanks that may stand around a number: all but the controls that end a unit. -/
def isNumberBlank (c : Char) : Bool := isBlank c && !(28 ≤ c.toNat && c.toNat ≤ 31)

/-- The characters of a number, without the blanks around it. -/
def numberChars (s : String) : List Char :=
  ((s.toList.dropWhile isNumberBlank).reverse.dropWhile isNumberBlank).reverse

/-- Digits, with single underscores between them. -/
def takeDigits (acc : List Nat) : List Char → List Nat × List Char
  | '_' :: c :: rest =>
    match acc, digitValue? c with
    | _ :: _, some d => takeDigits (d :: acc) rest
    | _, _ => (acc.reverse, '_' :: c :: rest)
  | c :: rest =>
    match digitValue? c with
    | some d => takeDigits (d :: acc) rest
    | none => (acc.reverse, c :: rest)
  | [] => (acc.reverse, [])

/-- The number that digits make up. -/
def ofDigits (digits : List Nat) : Nat := digits.foldl (fun n d => n * 10 + d) 0

/-- A sign; tells whether it is a minus. -/
def takeSign : List Char → Bool × List Char
  | '-' :: rest => (true, rest)
  | '+' :: rest => (false, rest)
  | cs => (false, cs)

/-- Most digits of a whole number, zeros in front included. -/
def mostDigits : Nat := 4300

/-- A whole number. -/
def readWhole? (s : String) : Option Int :=
  let (negative, cs) := takeSign (numberChars s)
  match takeDigits [] cs with
  | (d :: digits, []) =>
    let n : Int := ofDigits (d :: digits)
    if (d :: digits).length ≤ mostDigits then some (if negative then -n else n) else none
  | _ => none

/-- An exponent; none when it is broken. -/
def takeExponent (cs : List Char) : Option Int :=
  match cs with
  | [] => some 0
  | e :: rest =>
    if e = 'e' || e = 'E' then
      let (negative, rest) := takeSign rest
      match takeDigits [] rest with
      | (d :: digits, []) =>
        let n : Int := ofDigits (d :: digits)
        some (if negative then -n else n)
      | _ => none
    else none

/-- The double nearest to `digits` times ten to `exponent`. -/
def nearestDouble (digits : Nat) (exponent : Int) : Float :=
  if digits = 0 then 0
  else if 400 < exponent then 1 / 0
  else if exponent < 0 then
    if exponent < -20000 then 0 else Float.ofScientific digits true (-exponent).toNat
  else Float.ofScientific digits false exponent.toNat

/-- A double that is not negative. -/
def readMagnitude? (cs : List Char) : Option Float :=
  let word := lower (String.ofList cs)
  if word = "inf" || word = "infinity" then some (1 / 0)
  else if word = "nan" then some (0 / 0)
  else
    let (front, rest) := takeDigits [] cs
    let (back, rest) := match rest with
      | '.' :: rest => takeDigits [] rest
      | rest => ([], rest)
    if front.isEmpty && back.isEmpty then none
    else (takeExponent rest).map fun e => nearestDouble (ofDigits (front ++ back)) (e - back.length)

/-- A double with a minus in front. -/
def opposite (x : Float) : Number := if x.isNaN then .minusUndefined else .real (-x)

/-- A double. -/
def readReal? (s : String) : Option Number :=
  let (negative, cs) := takeSign (numberChars s)
  (readMagnitude? cs).map fun x => if negative then opposite x else .real x

end CloudSession.Text
