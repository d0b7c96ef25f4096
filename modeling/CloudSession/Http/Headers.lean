import CloudSession.Text.LowerCase
import CloudSession.Value.Text

/-! # Headers of a request

Headers in the order they were first set. Their names come from settings, which may hold something
that is no text; such a header is kept, and is found out only where names are compared. Case does
not count when a header is looked for.
-/

namespace CloudSession

abbrev Headers := Entries Value Value

namespace Headers

def sorted (headers : Headers) : Headers :=
  headers.mergeSort fun a b => decide (a.1.display ≤ b.1.display)

/-- Whether a header of this name in lower case is present; none when a name that is no text is
met first. -/
def seek? (name : String) : Headers → Option Bool
  | [] => some false
  | (.text n, _) :: rest => if Text.lower n == name then some true else seek? name rest
  | _ :: _ => none

/-- Whether a header is present; none when names that are no texts would have to be compared. -/
def has? (headers : Headers) (name : Value) : Option Bool :=
  match headers, name with
  | [], _ => some false
  | headers, .text name => headers.seek? (Text.lower name)
  | _, _ => none

end Headers

end CloudSession
