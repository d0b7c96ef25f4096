import CloudSession.Value

/-! # Joining a url and path segments

Parts are joined by exactly one slash; slashes around a segment and segments of nothing else do
not count.
-/

namespace CloudSession.Url

def isSlash (c : Char) : Bool := c == '/'

/-- Cut the slashes from the back. -/
def stripSlashesRight (cs : List Char) : List Char := (cs.reverse.dropWhile isSlash).reverse

/-- Cut the slashes from both ends. -/
def stripSlashes (cs : List Char) : List Char := stripSlashesRight (cs.dropWhile isSlash)

/-- Append one segment to a url that ends in no slash. -/
def appendSegment (url segment : List Char) : List Char :=
  match stripSlashes segment with
  | [] => url
  | part => url ++ '/' :: part

def join (base : String) (segments : List String) : String :=
  String.ofList
    (segments.foldl (fun url segment => appendSegment url segment.toList)
      (stripSlashesRight base.toList))

/-- As `join`, of values: only texts can be joined. -/
def join? (base : Value) (segments : List Value) : Option String :=
  match base, segments.mapM Value.text? with
  | .text base, some segments => some (join base segments)
  | _, _ => none

end CloudSession.Url
