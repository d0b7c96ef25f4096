import CloudSession.Fields
import CloudSession.Number

/-! # Values

What a fetch may hand back, a fault may carry and an option may hold.
-/

namespace CloudSession

inductive Value where
  | null
  | bool (b : Bool)
  | number (n : Number)
  | text (s : String)
  | list (items : List Value)
  | pairs (entries : List (String × Value))
  | reference (name href type : Value)

namespace Value

def int (n : Int) : Value := .number (.whole n)

def float (x : Float) : Value := .number (.real x)

def ofOption : Option String → Value
  | some s => .text s
  | none => .null

/-- Empty and zero values do not hold. -/
def holds : Value → Bool
  | .null => false
  | .bool b => b
  | .number n => !n.isZero
  | .text s => !s.isEmpty
  | .list items => !items.isEmpty
  | .pairs entries => !entries.isEmpty
  | .reference .. => true

/-- The text a value is, if it is one. -/
def text? : Value → Option String
  | .text s => some s
  | _ => none

/-- The number a value counts as: the two truth values count as one and zero. -/
def asNumber? : Value → Option Number
  | .bool b => some (.whole (if b then 1 else 0))
  | .number n => some n
  | _ => none

/-- Whether a value can name something: what holds a list or a mapping cannot. -/
def isName : Value → Bool
  | .list _ | .pairs _ => false
  | .reference name href type => isName name && isName href && isName type
  | _ => true

mutual

/-- Equality of values: numbers by what they are worth, fields in any order. -/
def eq : Value → Value → Bool
  | .null, .null => true
  | .text s, .text t => s == t
  | .list xs, .list ys => eqList xs ys
  | .pairs xs, .pairs ys => xs.length == ys.length && eqPairs xs ys
  | .reference n h t, .reference n' h' t' => eq n n' && eq h h' && eq t t'
  | .bool a, w => w.asNumber?.any (Number.eq (.whole (if a then 1 else 0)))
  | .number a, w => w.asNumber?.any a.eq
  | _, _ => false

def eqList : List Value → List Value → Bool
  | [], [] => true
  | x :: xs, y :: ys => eq x y && eqList xs ys
  | _, _ => false

/-- Whether every field of the first list is a field of the second. -/
def eqPairs : List (String × Value) → List (String × Value) → Bool
  | [], _ => true
  | (name, v) :: rest, ys =>
    (match ys.lookup name with
      | some w => eq v w
      | none => false) && eqPairs rest ys

end

instance : BEq Value := ⟨eq⟩

end Value

end CloudSession
