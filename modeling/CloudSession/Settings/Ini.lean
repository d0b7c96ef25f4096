import CloudSession.Text.Blank

/-! # Settings files

A settings file has sections in brackets and assignments `key = value` or `key: value`. Lines that
begin with a blank go on with the value before them; an empty line, a comment and a section end
it. Quotes around a value are taken off.
-/

namespace CloudSession.Settings

/-- An assignment with the section it stands in. -/
structure Assignment where
  place : String
  key : String
  value : String

structure Reader where
  place : Option String := none
  /-- The assignment under way: its key, and the lines of its value, last line first. -/
  current : Option (String × List String) := none
  /-- Assignments, last one first. -/
  done : List Assignment := []

namespace Reader

/-- End the assignment under way, which must stand in a section. -/
def flush (r : Reader) : Option Reader :=
  match r.current, r.place with
  | none, _ => some r
  | some (key, lines), some place =>
    some { r with
      current := none
      done := ⟨place, key, "\n".intercalate lines.reverse⟩ :: r.done }
  | some _, none => none

/-- Take a matching pair of quotes off. -/
def unquote (value : List Char) : List Char :=
  match value with
  | [] => []
  | mark :: rest =>
    if (mark = '"' || mark = '\'') && value.getLast? = some mark then rest.dropLast else value

/-- Key and value of a line, cut at the first equals sign or colon. -/
def assignment? (line : List Char) : Option (String × String) :=
  let isMark := fun c => c = '=' || c = ':'
  let key := Text.strip (String.ofList (line.takeWhile fun c => !isMark c))
  match line.dropWhile fun c => !isMark c with
  | [] => none
  | _ :: value =>
    let value := unquote (Text.strip (String.ofList value)).toList
    if key.isEmpty then none else some (key, String.ofList value)

def line (r : Reader) (line : List Char) : Option Reader :=
  let line := Text.stripRight line
  match line with
  | [] => r.flush
  | c :: rest =>
    if c = ' ' || c = '\t' then
      match r.current with
      | none => none
      | some (key, lines) =>
        some { r with current := some (key, String.ofList (Text.stripLeft line) :: lines) }
    else do
      let r ← r.flush
      if c = '[' then
        if line.getLast? = some ']' && 2 < line.length then
          some { r with place := some (String.ofList rest.dropLast) }
        else none
      else if c = '#' || c = ';' then some r
      else
        let (key, value) ← assignment? line
        some { r with current := some (key, [value]) }

end Reader

/-- Lines of a text; a carriage return ends a line too, alone or before a line feed. -/
def lines (cs : List Char) : List (List Char) := go [] cs
where
  go (line : List Char) : List Char → List (List Char)
    | [] => if line.isEmpty then [] else [line.reverse]
    | '\r' :: '\n' :: rest => line.reverse :: go [] rest
    | '\r' :: rest => line.reverse :: go [] rest
    | '\n' :: rest => line.reverse :: go [] rest
    | c :: rest => go (c :: line) rest

/-- The assignments of a file in order; none when the file is malformed. -/
def parse? (text : String) : Option (List Assignment) := do
  let r ← (lines text.toList).foldlM Reader.line {}
  let r ← r.flush
  return r.done.reverse

end CloudSession.Settings
