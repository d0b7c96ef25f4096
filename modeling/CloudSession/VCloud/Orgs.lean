import CloudSession.Fault

/-! # Organisations and data centres

The uri that lists organisations is the parent of the uri of any one of them, and data centres are
found from the organisation they belong to, or the other way round.
-/

namespace CloudSession.VCloud

/-- Replace `org/` and the rest of its line by `org`, at every place where it starts. The rest of
a line that is being dropped is skipped when `dropping` is set. -/
def cutOrgs : (dropping : Bool) → List Char → List Char
  | _, [] => []
  | true, c :: rest => if c = '\n' then c :: cutOrgs false rest else cutOrgs true rest
  | false, 'o' :: 'r' :: 'g' :: '/' :: rest => 'o' :: 'r' :: 'g' :: cutOrgs true rest
  | false, c :: rest => c :: cutOrgs false rest

/-- The uri that lists organisations, from the uri of one of them. -/
def orgList (href : String) : String := String.ofList (cutOrgs false href.toList)

/-- From the data centres of organisations to the organisation of each data centre: each data
centre stands where it is first named, and belongs to the last organisation that names it. -/
def vdcToOrg {ω ν : Type} [BEq ν] (orgVdcs : Entries ω (List ν)) : Entries ν ω :=
  orgVdcs.foldl
    (fun found (org, vdcs) => vdcs.foldl (fun found vdc => Entries.put vdc org found) found) []

/-- What a value lists: the items of a list, the characters of a text, the names of fields. -/
def listed? : Value → Option (List Value)
  | .list items => some items
  | .text s => some (s.toList.map fun c => .text (String.ofList [c]))
  | .pairs fields => some ((Entries.names fields).map .text)
  | _ => none

/-- As `vdcToOrg`, of values: each must list what can name a data centre. -/
def vdcToOrg? (orgVdcs : Entries Value Value) : Option (Entries Value Value) := do
  let lists ← orgVdcs.mapM fun (org, vdcs) => return (org, ← listed? vdcs)
  if lists.all fun (_, vdcs) => vdcs.all Value.isName then some (vdcToOrg lists) else none

end CloudSession.VCloud
