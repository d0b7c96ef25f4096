/-! # Finding text in text -/

namespace CloudSession.Text

/-- Whether `sought` stands somewhere in a text. -/
def occurs (sought : List Char) : List Char → Bool
  | [] => sought.isEmpty
  | c :: rest => sought.isPrefixOf (c :: rest) || occurs sought rest

/-- Whether `sought` stands somewhere in `s`. -/
def isWithin (sought s : String) : Bool := occurs sought.toList s.toList

theorem occurs_iff (sought cs : List Char) : occurs sought cs = true ↔ sought <:+: cs := by
  induction cs with
  | nil => simp [occurs]
  | cons c rest ih =>
    simp only [occurs, Bool.or_eq_true, List.isPrefixOf_iff_prefix, ih, List.infix_cons_iff]

/-- A text stands in another one just when its characters stand there in a row. -/
theorem isWithin_iff (sought s : String) : isWithin sought s = true ↔ sought.toList <:+: s.toList :=
  occurs_iff _ _

end CloudSession.Text
