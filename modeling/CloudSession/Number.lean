/-! # Numbers

Whole numbers of any size and doubles, as settings and clocks use them. A comparison between the
two kinds is exact: both are read as units of a power of two.
-/

namespace CloudSession

/-- An exact value: `m` units of `2 ^ e`, or no finite value at all. -/
inductive Scaled where
  | finite (negative : Bool) (m : Nat) (e : Int)
  | infinite (negative : Bool)
  | undefined
  deriving Repr, DecidableEq

namespace Scaled

def ofFloat (x : Float) : Scaled :=
  let bits := x.toBits.toNat
  let negative := bits / Nat.pow 2 63 == 1
  let exponent : Nat := bits / Nat.pow 2 52 % Nat.pow 2 11
  let fraction : Nat := bits % Nat.pow 2 52
  if exponent = 2047 then (if fraction = 0 then .infinite negative else .undefined)
  else if exponent = 0 then .finite negative fraction (-1074)
  else .finite negative (Nat.pow 2 52 + fraction) (exponent - 1075)

def ofInt (n : Int) : Scaled := .finite (n < 0) n.natAbs 0

/-- The signed count of units of `2 ^ e'`, for `e' ≤ e`. -/
def units (negative : Bool) (m : Nat) (e e' : Int) : Int :=
  let size : Int := (m * Nat.pow 2 (e - e').toNat : Nat)
  if negative then -size else size

theorem units_natAbs (n : Int) : units (n < 0) n.natAbs 0 0 = n := by
  have one : Nat.pow 2 ((0 : Int) - 0).toNat = 1 := rfl
  simp only [units, one, Nat.mul_one, decide_eq_true_eq]
  split <;> omega

/-- Strict order; an undefined value is in order with nothing. -/
def lt : Scaled → Scaled → Bool
  | .undefined, _ => false
  | _, .undefined => false
  | .infinite false, _ => false
  | _, .infinite true => false
  | .infinite true, _ => true
  | _, .infinite false => true
  | .finite n m e, .finite n' m' e' =>
    let low := min e e'
    decide (units n m e low < units n' m' e' low)

/-- Equality of values: the two zeros are equal, an undefined value equals nothing. -/
def eq : Scaled → Scaled → Bool
  | .undefined, _ => false
  | _, .undefined => false
  | .infinite n, .infinite n' => n == n'
  | .infinite _, _ => false
  | _, .infinite _ => false
  | .finite n m e, .finite n' m' e' =>
    let low := min e e'
    decide (units n m e low = units n' m' e' low)

end Scaled

inductive Number where
  | whole (n : Int)
  | real (x : Float)
  /-- What is undefined and was given with a minus sign, which a double does not tell. -/
  | minusUndefined

namespace Number

def scaled : Number → Scaled
  | .whole n => .ofInt n
  | .real x => .ofFloat x
  | .minusUndefined => .undefined

def lt (a b : Number) : Bool := a.scaled.lt b.scaled

def eq (a b : Number) : Bool := a.scaled.eq b.scaled

def le (a b : Number) : Bool := a.lt b || a.eq b

/-- The smaller of two numbers, the first when neither is. -/
def min (a b : Number) : Number := if b.lt a then b else a

/-- The larger of two numbers, the first when neither is. -/
def max (a b : Number) : Number := if a.lt b then b else a

def isZero (a : Number) : Bool := a.eq (.whole 0)

/-- A whole number beyond all doubles. -/
def beyond : Int := (Nat.pow 2 1024 : Nat)

/-- The greatest whole number that a number is not below. What is infinite has a number beyond all
doubles in its place, and so has what is undefined, since no count goes beyond either. -/
def floor (a : Number) : Int :=
  match a.scaled with
  | .finite negative m e =>
    Scaled.units negative m e (Min.min e 0) / (Nat.pow 2 (-e).toNat : Nat)
  | .infinite true => -beyond
  | _ => beyond

@[simp]
theorem floor_whole (n : Int) : (whole n).floor = n := by
  simp [floor, scaled, Scaled.ofInt, Scaled.units_natAbs]

theorem whole_lt_whole (m n : Int) : (whole m).lt (whole n) = decide (m < n) := by
  have low : Min.min (0 : Int) 0 = 0 := rfl
  simp only [lt, scaled, Scaled.ofInt, Scaled.lt, low, Scaled.units_natAbs]

/-- The least whole number that is at least a number; beyond the doubles as with `floor`. -/
def ceil (a : Number) : Int :=
  match a.scaled with
  | .finite negative m e =>
    -(-Scaled.units negative m e (Min.min e 0) / (Nat.pow 2 (-e).toNat : Nat))
  | .infinite true => -beyond
  | _ => beyond

/-- The double nearest to a whole number, none when it lies beyond the doubles. -/
def nearest? (n : Int) : Option Float :=
  let size := Float.ofScientific n.natAbs false 0
  match Scaled.ofFloat size with
  | .finite .. => some (if n < 0 then -size else size)
  | _ => none

def toFloat? : Number → Option Float
  | .whole n => nearest? n
  | .real x => some x
  | .minusUndefined => some (0 / 0)

/-- The double `2 ^ k`, zero below the smallest one. -/
def powerOfTwo (k : Int) : Float :=
  if k < -1074 then 0
  else if k < -1022 then Float.ofBits (Nat.pow 2 (k + 1074).toNat).toUInt64
  else Float.ofBits ((k + 1023).toNat * Nat.pow 2 52).toUInt64

/-- `2 ^ k` times a number. A whole number stays whole for `k ≥ 0`; a double has no power of two
beyond the doubles. -/
def timesPowerOfTwo (a : Number) (k : Int) : Option Number :=
  match a with
  | .whole n =>
    if 0 ≤ k then some (.whole (n * (Nat.pow 2 k.toNat : Nat)))
    else (nearest? n).map fun x => .real (x * powerOfTwo k)
  | .real x => if k < 1024 then some (.real (x * powerOfTwo k)) else none
  | .minusUndefined => if k < 1024 then some .minusUndefined else none

end Number

end CloudSession
