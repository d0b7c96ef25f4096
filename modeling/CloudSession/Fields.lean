import CloudSession.Entries

/-! # Named fields

Entries whose keys are texts, which can be put into the order of their names.
-/

namespace CloudSession

abbrev Fields (α : Type) := Entries String α

namespace Fields

variable {α : Type}

def sortedNames (fields : Fields α) : List String :=
  (Entries.names fields).mergeSort (fun a b => decide (a ≤ b))

def sorted (fields : Fields α) : Fields α :=
  fields.mergeSort (fun a b => decide (a.1 ≤ b.1))

end Fields

end CloudSession
