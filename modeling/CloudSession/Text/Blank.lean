import CloudSession.Text.Ranges

/-! # Blank characters

The white space that is cut from the ends of a text: the separators of Unicode together with the
control characters that end a line, a paragraph or a unit. Joiners and marks of zero width are
not blank.
-/

namespace CloudSession.Text

/-- The blank characters, as code points. -/
def blanks : Ranges :=
  [(9, 13), (28, 32), (133, 133), (160, 160), (5760, 5760), (8192, 8202), (8232, 8233),
   (8239, 8239), (8287, 8287), (12288, 12288)]

def isBlank (c : Char) : Bool := blanks.has c

/-- Cut the blanks from the front. -/
def stripLeft (cs : List Char) : List Char := cs.dropWhile isBlank

/-- Cut the blanks from the back. -/
def stripRight (cs : List Char) : List Char := (cs.reverse.dropWhile isBlank).reverse

/-- Cut the blanks from both ends. -/
def strip (s : String) : String := String.ofList (stripRight (stripLeft s.toList))

end CloudSession.Text
