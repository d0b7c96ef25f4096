import CloudSession.Fields

/-! # References in option texts

The text of an option may refer to other options: `$name` and `${name}` stand for the value of the
option they name, `$$` and `\$` for the mark itself. A mark that begins neither is kept.
-/

namespace CloudSession.Settings

inductive Piece where
  | plain (c : Char)
  | reference (name : String)
  deriving Repr, DecidableEq

namespace Piece

/-- Letters beyond the Latin alphabet that count as letters of it when case does not count. -/
def likeLetters : List Nat := [0x130, 0x131, 0x17F, 0x212A]

/-- Characters a name may begin with. -/
def beginsName (c : Char) : Bool := c.isAlpha || c == '_' || likeLetters.contains c.toNat

def isNameChar (c : Char) : Bool := beginsName c || c.isDigit || c == '.'

/-- The name a text begins with, empty when it begins with none, and what follows it. -/
def takeName (cs : List Char) : List Char × List Char :=
  match cs with
  | [] => ([], [])
  | c :: rest =>
    if beginsName c then (c :: rest.takeWhile isNameChar, rest.dropWhile isNameChar)
    else ([], c :: rest)

theorem length_takeName_le (cs : List Char) : (takeName cs).2.length ≤ cs.length := by
  unfold takeName
  split
  · simp
  · split
    · exact Nat.le_succ_of_le (List.dropWhile_sublist _).length_le
    · simp

/-- A mark behind a backslash, written as the mark written twice. -/
def escapes : List Char → List Char
  | '\\' :: '$' :: rest => '$' :: '$' :: escapes rest
  | c :: rest => c :: escapes rest
  | [] => []

/-- The pieces of a text in which no mark is escaped by a backslash. -/
def split (cs : List Char) : List Piece :=
  match cs with
  | [] => []
  | '$' :: '$' :: rest => .plain '$' :: split rest
  | '$' :: '\x7b' :: rest =>
    match h : takeName rest with
    | (c :: name, '\x7d' :: after) =>
      have : after.length < rest.length := by
        have := length_takeName_le rest
        rw [h] at this
        exact this
      .reference (String.ofList (c :: name)) :: split after
    | _ => .plain '$' :: .plain '\x7b' :: split rest
  | '$' :: rest =>
    match h : takeName rest with
    | (c :: name, after) =>
      have : after.length ≤ rest.length := by
        have := length_takeName_le rest
        rwa [h] at this
      .reference (String.ofList (c :: name)) :: split after
    | ([], _) => .plain '$' :: split rest
  | c :: rest => .plain c :: split rest
termination_by cs.length

end Piece

/-- The pieces of the text of an option. -/
def pieces (text : String) : List Piece := Piece.split (Piece.escapes text.toList)

/-- A text with every reference replaced by what it stands for, unless one stands for nothing. -/
def expand {ε : Type} (lookUp : String → Except ε String) (text : String) : Except ε String := do
  let parts ← (pieces text).mapM fun
    | .plain c => .ok (String.ofList [c])
    | .reference name => lookUp name
  return "".intercalate parts

end CloudSession.Settings
