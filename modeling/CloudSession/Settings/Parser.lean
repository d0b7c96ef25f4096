import CloudSession.Fault
import CloudSession.Settings.Ini
import CloudSession.Settings.Reference

/-! # Parsers of settings files

What reads settings files is a parser. It tells which files are well formed, which text the files
that were read give an option, and what a text with references in it comes to. All that settings
rely on is that the last file that sets an option counts.
-/

namespace CloudSession.Settings

structure Parser where
  wellFormed : String → Bool
  /-- The text that files give an option, by what is in them, in the order they were read. -/
  text? : (files : List String) → (group name : String) → Option String
  /-- A text with its references replaced by what they stand for. -/
  expand : (String → Except SettingsFault String) → String → Except SettingsFault String
  text?_nil : ∀ group name, text? [] group name = none
  last_counts : ∀ files last group name,
    text? (files ++ [last]) group name = (text? [last] group name).or (text? files group name)

/-- Groups are named in files without regard to case. -/
def sameGroup (group place : String) : Bool :=
  let plain := fun name => if name = "DEFAULT" then name else Text.lower name
  plain group == plain place

/-- The text that assignments give an option: the last one counts. -/
def textOf (assignments : List Assignment) (group name : String) : Option String :=
  (assignments.reverse.find? fun a => sameGroup group a.place && a.key == name).map (·.value)

theorem textOf_append (before behind : List Assignment) (group name : String) :
    textOf (before ++ behind) group name =
      (textOf behind group name).or (textOf before group name) := by
  rw [textOf, List.reverse_append, List.find?_append, Option.map_or]
  rfl

/-- The parser of files with sections and assignments. -/
def Parser.ini : Parser where
  wellFormed file := (parse? file).isSome
  text? files := textOf (files.filterMap parse?).flatten
  expand := Settings.expand
  text?_nil _ _ := rfl
  last_counts files last group name := by
    rw [List.filterMap_append, List.flatten_append, textOf_append]

end CloudSession.Settings
