/-! # Sets of characters

A set of characters is a list of ranges of code points, both ends included.
-/

namespace CloudSession.Text

abbrev Ranges := List (Nat × Nat)

/-- Whether the code point of `c` lies in one of the ranges. -/
def Ranges.has (rs : Ranges) (c : Char) : Bool :=
  rs.any fun (first, last) => first ≤ c.toNat && c.toNat ≤ last

end CloudSession.Text
