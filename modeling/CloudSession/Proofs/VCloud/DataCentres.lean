import CloudSession.VCloud.Orgs
import Mathlib.Data.List.Induction
import Mathlib.Data.List.Nodup

/-! # Whose a data centre is

Organisations are gone through in order, and each is written down for every data centre it lists.
So a data centre keeps the place where it is first listed, and belongs to the last organisation that
lists it. Which one that is depends on the order of the organisations, unless no data centre is
listed by two of them.
-/

namespace CloudSession.VCloud

open Entries

/-- The names in `firsts` are those of `named`, in the order they are first named in. -/
structure FirstMentions {ν : Type} [BEq ν] (named firsts : List ν) : Prop where
  members : ∀ name, name ∈ firsts ↔ name ∈ named
  order : firsts.Pairwise fun name later => named.idxOf name < named.idxOf later

/-- An organisation lists a data centre, and none after it does. -/
def LastToList {ω ν : Type} (orgVdcs : Entries ω (List ν)) (vdc : ν) (org : ω) : Prop :=
  ∃ before vdcs after, orgVdcs = before ++ (org, vdcs) :: after ∧ vdc ∈ vdcs ∧
    ∀ entry ∈ after, vdc ∉ entry.2

/-- No data centre is listed by two organisations. -/
def Apart {ω ν : Type} (orgVdcs : Entries ω (List ν)) : Prop :=
  ∀ entry ∈ orgVdcs, ∀ other ∈ orgVdcs, ∀ vdc ∈ entry.2, vdc ∈ other.2 → entry.1 = other.1

instance {ω ν : Type} [DecidableEq ω] [DecidableEq ν] (orgVdcs : Entries ω (List ν)) :
    Decidable (Apart orgVdcs) :=
  inferInstanceAs (Decidable (∀ entry ∈ orgVdcs, ∀ other ∈ orgVdcs, ∀ vdc ∈ entry.2,
    vdc ∈ other.2 → entry.1 = other.1))

theorem LastToList.lists {ω ν : Type} {orgVdcs : Entries ω (List ν)} {vdc : ν} {org : ω}
    (last : LastToList orgVdcs vdc org) :
    ∃ vdcs, (org, vdcs) ∈ orgVdcs ∧ vdc ∈ vdcs := by
  obtain ⟨before, vdcs, after, rfl, lists, -⟩ := last
  exact ⟨vdcs, by simp, lists⟩

theorem Apart.of_perm {ω ν : Type} {orgVdcs others : Entries ω (List ν)} (apart : Apart orgVdcs)
    (perm : others.Perm orgVdcs) : Apart others :=
  fun entry within other also =>
    apart entry (perm.mem_iff.mp within) other (perm.mem_iff.mp also)

/-- An organisation written down for each data centre it lists. -/
def assign {ω ν : Type} [BEq ν] (org : ω) (vdcs : List ν) (owners : Entries ν ω) : Entries ν ω :=
  vdcs.foldl (fun owners vdc => put vdc org owners) owners

variable {ω ν : Type} [BEq ν]

theorem assign_cons (org : ω) (vdc : ν) (vdcs : List ν) (owners : Entries ν ω) :
    assign org (vdc :: vdcs) owners = assign org vdcs (put vdc org owners) := rfl

/-- The last organisation is written upon what came of those before it. -/
theorem vdcToOrg_concat (orgVdcs : Entries ω (List ν)) (org : ω) (vdcs : List ν) :
    vdcToOrg (orgVdcs ++ [(org, vdcs)]) = assign org vdcs (vdcToOrg orgVdcs) :=
  List.foldl_append

theorem FirstMentions.nil : FirstMentions ([] : List ν) [] := ⟨by simp, .nil⟩

theorem FirstMentions.nodup {named firsts : List ν} (first : FirstMentions named firsts) :
    firsts.Nodup := by
  refine first.order.imp fun earlier same => ?_
  rw [same] at earlier
  exact Nat.lt_irrefl _ earlier

section

variable [LawfulBEq ν] {named firsts : List ν} {orgVdcs : Entries ω (List ν)} {vdc : ν} {org : ω}

/-! ## The order of data centres -/

/-- A further name leaves the order of the others as it is. -/
theorem FirstMentions.order_concat (first : FirstMentions named firsts) (name : ν) :
    firsts.Pairwise fun other later =>
      (named ++ [name]).idxOf other < (named ++ [name]).idxOf later := by
  refine first.order.imp_of_mem fun within within' earlier => ?_
  rwa [List.idxOf_append_of_mem ((first.members _).mp within),
    List.idxOf_append_of_mem ((first.members _).mp within')]

/-- A name that was named before keeps its place. -/
theorem FirstMentions.again (first : FirstMentions named firsts) {name : ν}
    (known : name ∈ firsts) : FirstMentions (named ++ [name]) firsts where
  members other := by
    have before : name ∈ named := (first.members name).mp known
    rw [first.members, List.mem_append, List.mem_singleton]
    exact ⟨.inl, Or.rec id fun same => same ▸ before⟩
  order := first.order_concat name

/-- A name that was not named before goes to the end. -/
theorem FirstMentions.anew (first : FirstMentions named firsts) {name : ν} (new : name ∉ firsts) :
    FirstMentions (named ++ [name]) (firsts ++ [name]) where
  members other := by rw [List.mem_append, List.mem_append, first.members]
  order := by
    refine List.pairwise_append.mpr ⟨first.order_concat name, List.pairwise_singleton _ _, ?_⟩
    intro other within last isLast
    rw [List.mem_singleton.mp isLast]
    have before : other ∈ named := (first.members other).mp within
    have unnamed : name ∉ named := mt (first.members name).mpr new
    calc (named ++ [name]).idxOf other = named.idxOf other := List.idxOf_append_of_mem before
      _ < named.length := List.idxOf_lt_length_of_mem before
      _ ≤ (named ++ [name]).idxOf name := by
        rw [List.idxOf_append_of_notMem unnamed]
        exact Nat.le_add_right _ _

theorem FirstMentions.put {owners : Entries ν ω} (first : FirstMentions named (names owners))
    (vdc : ν) (org : ω) : FirstMentions (named ++ [vdc]) (names (put vdc org owners)) := by
  rw [names_put]
  by_cases known : vdc ∈ names owners
  · rw [if_pos (List.contains_iff_mem.mpr known)]
    exact first.again known
  · rw [if_neg (mt List.contains_iff_mem.mp known)]
    exact first.anew known

theorem FirstMentions.assign {owners : Entries ν ω} (first : FirstMentions named (names owners))
    (org : ω) (vdcs : List ν) : FirstMentions (named ++ vdcs) (names (assign org vdcs owners)) := by
  induction vdcs generalizing named owners with
  | nil => rwa [List.append_nil]
  | cons vdc vdcs ih =>
    rw [assign_cons, List.append_cons]
    exact ih (first.put vdc org)

/-- Data centres stand in the order they are first listed in. -/
theorem firstMentions_vdcToOrg (orgVdcs : Entries ω (List ν)) :
    FirstMentions (orgVdcs.flatMap Prod.snd) (names (vdcToOrg orgVdcs)) := by
  induction orgVdcs using List.reverseRecOn with
  | nil => exact .nil
  | append_singleton orgVdcs entry ih =>
    obtain ⟨org, vdcs⟩ := entry
    rw [vdcToOrg_concat, List.flatMap_append, List.flatMap_singleton]
    exact ih.assign org vdcs

/-! ## The last to list a data centre -/

theorem get?_assign (org : ω) (vdcs : List ν) (owners : Entries ν ω) (vdc : ν) :
    get? (assign org vdcs owners) vdc =
      if vdcs.contains vdc then some org else get? owners vdc := by
  induction vdcs generalizing owners with
  | nil => simp [assign]
  | cons first rest ih =>
    rw [assign_cons, ih, get?_put]
    by_cases here : vdc = first <;> by_cases behind : vdc ∈ rest <;> simp [here, behind]

/-- What a data centre belongs to, with the organisations gone through from the end. -/
theorem get?_vdcToOrg (orgVdcs : Entries ω (List ν)) (vdc : ν) :
    get? (vdcToOrg orgVdcs) vdc =
      (orgVdcs.reverse.find? fun entry => entry.2.contains vdc).map Prod.fst := by
  induction orgVdcs using List.reverseRecOn with
  | nil => rfl
  | append_singleton orgVdcs entry ih =>
    obtain ⟨org, vdcs⟩ := entry
    rw [vdcToOrg_concat, get?_assign, ih, List.reverse_concat, List.find?_cons]
    cases vdcs.contains vdc <;> rfl

theorem get?_eq_some_iff_lastToList :
    get? (vdcToOrg orgVdcs) vdc = some org ↔ LastToList orgVdcs vdc org := by
  rw [get?_vdcToOrg, Option.map_eq_some_iff]
  -- From the end, the organisations after the last one to list it are those met before.
  constructor
  · rintro ⟨⟨org, vdcs⟩, found, rfl⟩
    obtain ⟨lists, after, before, split, silent⟩ := List.find?_eq_some_iff_append.mp found
    refine ⟨before.reverse, vdcs, after.reverse, ?_, by simpa using lists, by simpa using silent⟩
    simpa using congrArg List.reverse split
  · rintro ⟨before, vdcs, after, rfl, lists, silent⟩
    refine ⟨(org, vdcs), List.find?_eq_some_iff_append.mpr ⟨by simpa using lists, ?_⟩, rfl⟩
    exact ⟨after.reverse, before.reverse, by simp, by simpa using silent⟩

/-! ## Organisations that have nothing in common -/

/-- A data centre that is listed belongs to some organisation. -/
theorem exists_lastToList {vdcs : List ν} (within : (org, vdcs) ∈ orgVdcs) (lists : vdc ∈ vdcs) :
    ∃ last, LastToList orgVdcs vdc last := by
  cases owner : get? (vdcToOrg orgVdcs) vdc with
  | some last => exact ⟨last, get?_eq_some_iff_lastToList.mp owner⟩
  | none =>
    rw [get?_vdcToOrg, Option.map_eq_none_iff, List.find?_eq_none] at owner
    exact absurd (List.contains_iff_mem.mpr lists) (owner _ (List.mem_reverse.mpr within))

/-- Of organisations that have nothing in common, a data centre belongs to the one that lists it,
wherever that stands. -/
theorem Apart.get?_eq_some_iff (apart : Apart orgVdcs) :
    get? (vdcToOrg orgVdcs) vdc = some org ↔ ∃ vdcs, (org, vdcs) ∈ orgVdcs ∧ vdc ∈ vdcs := by
  rw [get?_eq_some_iff_lastToList]
  constructor
  · exact LastToList.lists
  · rintro ⟨vdcs, within, lists⟩
    obtain ⟨other, last⟩ := exists_lastToList within lists
    obtain ⟨vdcs', within', lists'⟩ := last.lists
    have same : org = other := apart _ within _ within' vdc lists lists'
    exact same ▸ last

/-- Any organisation comes last in some order, and in that one it owns all it lists. -/
theorem exists_perm_owns {vdcs : List ν} (within : (org, vdcs) ∈ orgVdcs) :
    ∃ others, others.Perm orgVdcs ∧ ∀ vdc ∈ vdcs, get? (vdcToOrg others) vdc = some org := by
  obtain ⟨before, after, rfl⟩ := List.append_of_mem within
  refine ⟨(before ++ after) ++ [(org, vdcs)], ?_, fun vdc lists => ?_⟩
  · exact (List.perm_append_singleton _ _).trans List.perm_middle.symm
  · rw [vdcToOrg_concat, get?_assign, if_pos (List.contains_iff_mem.mpr lists)]

/-- The owners do not depend on the order of the organisations exactly if these have nothing in
common. -/
theorem get?_perm_iff_apart :
    (∀ others, others.Perm orgVdcs →
      ∀ vdc, get? (vdcToOrg others) vdc = get? (vdcToOrg orgVdcs) vdc) ↔ Apart orgVdcs := by
  constructor
  · intro same entry within other also vdc lists lists'
    obtain ⟨others, perm, owns⟩ := exists_perm_owns within
    obtain ⟨others', perm', owns'⟩ := exists_perm_owns also
    have both : some entry.1 = some other.1 :=
      calc some entry.1 = get? (vdcToOrg others) vdc := (owns vdc lists).symm
        _ = get? (vdcToOrg orgVdcs) vdc := same others perm vdc
        _ = get? (vdcToOrg others') vdc := (same others' perm' vdc).symm
        _ = some other.1 := owns' vdc lists'
    exact Option.some.inj both
  · intro apart others perm vdc
    refine Option.ext fun org => ?_
    rw [apart.get?_eq_some_iff, (apart.of_perm perm).get?_eq_some_iff]
    exact exists_congr fun vdcs => and_congr_left fun _ => perm.mem_iff

/-- Each organisation owns what it lists and nothing else exactly if the organisations have nothing
in common. -/
theorem owns_listed_iff_apart (once : (names orgVdcs).Nodup) :
    (∀ org vdcs, (org, vdcs) ∈ orgVdcs →
      ∀ vdc, get? (vdcToOrg orgVdcs) vdc = some org ↔ vdc ∈ vdcs) ↔ Apart orgVdcs := by
  constructor
  · rintro owns ⟨org, vdcs⟩ within ⟨other, vdcs'⟩ also vdc lists lists'
    have owner := (owns org vdcs within vdc).mpr lists
    have owner' := (owns other vdcs' also vdc).mpr lists'
    exact Option.some.inj (owner.symm.trans owner')
  · intro apart org vdcs within vdc
    rw [apart.get?_eq_some_iff]
    constructor
    · rintro ⟨vdcs', also, lists⟩
      have same := List.inj_on_of_nodup_map once within also rfl
      rwa [(Prod.mk.inj same).2]
    · exact fun lists => ⟨vdcs, within, lists⟩

end

/-! ## Names as values -/

section

variable {κ α : Type} [BEq κ] {name : ν → κ} {value : ω → α}
variable (faithful : ∀ vdc other, (name vdc == name other) = (vdc == other))
include faithful

/-- Other keys, if they are equal where the keys are, and other values make no difference to where
an entry goes. -/
theorem put_map (vdc : ν) (org : ω) (owners : Entries ν ω) :
    put (name vdc) (value org) (owners.map (Prod.map name value)) =
      (put vdc org owners).map (Prod.map name value) := by
  induction owners with
  | nil => rfl
  | cons head rest ih =>
    obtain ⟨other, owner⟩ := head
    by_cases known : vdc == other <;> simp [Entries.put, faithful, known, ih]

theorem assign_map (org : ω) (vdcs : List ν) (owners : Entries ν ω) :
    assign (value org) (vdcs.map name) (owners.map (Prod.map name value)) =
      (assign org vdcs owners).map (Prod.map name value) := by
  induction vdcs generalizing owners with
  | nil => rfl
  | cons vdc vdcs ih => rw [List.map_cons, assign_cons, assign_cons, put_map faithful, ih]

theorem vdcToOrg_map (orgVdcs : Entries ω (List ν)) :
    vdcToOrg (orgVdcs.map (Prod.map value (List.map name))) =
      (vdcToOrg orgVdcs).map (Prod.map name value) := by
  induction orgVdcs using List.reverseRecOn with
  | nil => rfl
  | append_singleton orgVdcs entry ih =>
    obtain ⟨org, vdcs⟩ := entry
    rw [vdcToOrg_concat, List.map_append, List.map_singleton, ← assign_map faithful, ← ih]
    exact vdcToOrg_concat _ _ _

end

/-- Values that list what can name a data centre have owners. -/
theorem vdcToOrg?_lists {lists : Entries Value (List Value)}
    (named : ∀ entry ∈ lists, ∀ vdc ∈ entry.2, vdc.isName = true) :
    vdcToOrg? (lists.map (Prod.map id .list)) = some (vdcToOrg lists) := by
  have all_named : lists.all (fun entry => entry.2.all Value.isName) = true := by
    simpa using fun org vdcs within => named (org, vdcs) within
  calc vdcToOrg? (lists.map (Prod.map id .list))
    _ = if lists.all (fun entry => entry.2.all Value.isName) = true
        then some (vdcToOrg lists) else none := by
      rw [vdcToOrg?, List.mapM_map]
      have listed : lists.mapM (fun entry => some (id entry)) = some lists :=
        List.mapM_pure.trans (congrArg some (List.map_id lists))
      exact congrArg (Option.bind · _) listed
    _ = some (vdcToOrg lists) := if_pos all_named

/-- Organisations with the data centres they list, as values. -/
def asValues (orgVdcs : Fields (List String)) : Entries Value Value :=
  orgVdcs.map (Prod.map .text fun vdcs => .list (vdcs.map .text))

theorem vdcToOrg?_asValues (orgVdcs : Fields (List String)) :
    vdcToOrg? (asValues orgVdcs) = some ((vdcToOrg orgVdcs).map (Prod.map .text .text)) := by
  have faithful : ∀ vdc other, (Value.text vdc == Value.text other) = (vdc == other) := by
    intro vdc other
    rfl
  have lists : asValues orgVdcs =
      (orgVdcs.map (Prod.map Value.text (List.map Value.text))).map (Prod.map id .list) := by
    rw [List.map_map]
    rfl
  rw [lists, vdcToOrg?_lists, vdcToOrg_map faithful]
  simp only [List.forall_mem_map, Prod.map_snd]
  exact fun _ _ _ _ => rfl

/-- Whatever the organisations list, the owners of the data centres are found. They are named once
each, in the order they are first listed in, and each belongs to the last organisation that lists
it. If no two organisations list one data centre, the owners are the same for every order of the
organisations, and each organisation owns what it lists. Else neither is so. -/
theorem vdcToOrg_inverts (orgVdcs : Fields (List String)) (once : (names orgVdcs).Nodup) :
    vdcToOrg? (asValues orgVdcs) = some ((vdcToOrg orgVdcs).map (Prod.map .text .text)) ∧
      (names (vdcToOrg orgVdcs)).Nodup ∧
      FirstMentions (orgVdcs.flatMap Prod.snd) (names (vdcToOrg orgVdcs)) ∧
      (∀ vdc org, get? (vdcToOrg orgVdcs) vdc = some org ↔ LastToList orgVdcs vdc org) ∧
      ((∀ others, others.Perm orgVdcs →
          ∀ vdc, get? (vdcToOrg others) vdc = get? (vdcToOrg orgVdcs) vdc) ↔ Apart orgVdcs) ∧
      ((∀ org vdcs, (org, vdcs) ∈ orgVdcs →
          ∀ vdc, get? (vdcToOrg orgVdcs) vdc = some org ↔ vdc ∈ vdcs) ↔ Apart orgVdcs) := by
  have first := firstMentions_vdcToOrg orgVdcs
  exact ⟨vdcToOrg?_asValues orgVdcs, first.nodup, first, fun _ _ => get?_eq_some_iff_lastToList,
    get?_perm_iff_apart, owns_listed_iff_apart once⟩

/-- Three organisations, one that lists nothing and one that lists a data centre twice. -/
def threeOrgs : Fields (List String) :=
  [("ops", ["vdc3", "vdc1", "vdc3"]), ("idle", []), ("jsmith", ["vdc2"])]

theorem vdcToOrg_inverts_of_apart :
    (names threeOrgs).Nodup ∧ Apart threeOrgs ∧
      get? (vdcToOrg threeOrgs.reverse) "vdc3" = some "ops" ∧
      ∀ vdc, get? (vdcToOrg threeOrgs) vdc = some "ops" ↔ vdc ∈ ["vdc3", "vdc1", "vdc3"] := by
  have once : (names threeOrgs).Nodup := by decide
  have apart : Apart threeOrgs := by decide
  obtain ⟨-, -, -, -, anyOrder, owns⟩ := vdcToOrg_inverts threeOrgs once
  have listed := owns.mpr apart "ops" ["vdc3", "vdc1", "vdc3"] (by decide)
  refine ⟨once, apart, ?_, listed⟩
  rw [anyOrder.mpr apart _ (List.reverse_perm _)]
  exact (listed "vdc3").mpr (by decide)

/-- A data centre that is listed again changes its owner and not its place. -/
example : vdcToOrg [("z", ["1"]), ("a", ["0", "1"])] = [("1", "a"), ("0", "a")] := by decide

end CloudSession.VCloud
