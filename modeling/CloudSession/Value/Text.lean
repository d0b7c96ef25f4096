import CloudSession.Decimal
import CloudSession.Text.Quoted
import CloudSession.Value

/-! # Text of a value

`display` is how a value reads in a sentence, `quoted` how it reads inside another value, where a
text keeps its quotes.
-/

namespace CloudSession.Value

/-- Join parts with a comma and a blank. -/
def commas (parts : List String) : String := ", ".intercalate parts

mutual

/-- A value as it is written inside another one. -/
def quoted : Value → String
  | .null => "None"
  | .bool b => if b then "True" else "False"
  | .number n => n.text
  | .text s => Text.quote s
  | .list items => "[" ++ commas (quotedItems items) ++ "]"
  | .pairs entries => "\x7b" ++ commas (quotedEntries entries) ++ "\x7d"
  | .reference name href type =>
    "ReferenceType(name=" ++ quoted name ++ ", href=" ++ quoted href ++
      ", type=" ++ quoted type ++ ")"

def quotedItems : List Value → List String
  | [] => []
  | v :: rest => quoted v :: quotedItems rest

def quotedEntries : List (String × Value) → List String
  | [] => []
  | (name, v) :: rest => (Text.quote name ++ ": " ++ quoted v) :: quotedEntries rest

end

def display : Value → String
  | .text s => s
  | v => quoted v

end CloudSession.Value
