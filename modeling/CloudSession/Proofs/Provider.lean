import Mathlib.Data.List.Nodup
import Mathlib.Tactic.Common
import CloudSession.Proofs.Problem
import CloudSession.Proofs.Text.Mark
import CloudSession.Provider

/-! # Providers by their ids

A provider has a module of its own in a package, under its id with underscores for dashes. An id is
reported as unknown where that very module is the first that is missing of the names on the way
there. An id with points may be missed further up, and then it is that which is reported.
-/

namespace CloudSession.Provider

/-- What is reported of an id that is not known. -/
def notFound (id : String) : FaultHead := .ofProblem .providerNotFound [("provider", .text id)]

/-- The module of an id. -/
def moduleName (package : List Char) (id : String) : List Char := package ++ '.' :: plainId id

/-- The names on the way to a module: what stands before a point of its name, and the whole. -/
def OnTheWay (name whole : List Char) : Prop :=
  ∃ rest, whole = name ++ rest ∧ ∀ c, rest.head? = some c → c = '.'

/-- What can be imported: the package with those it is in, and the modules of the providers. -/
def Modules.Has (modules : Modules) (package name : List Char) : Prop :=
  OnTheWay name package ∨ ∃ p ∈ modules.providers, name = moduleName package p.id

/-- What importing a module fails on: the first name on the way there that cannot be imported. -/
structure FirstMissing (modules : Modules) (package whole missing : List Char) : Prop where
  leads : OnTheWay missing whole
  absent : ¬ modules.Has package missing
  first : ∀ name, OnTheWay name missing → name ≠ missing → modules.Has package name

variable {modules : Modules} {package plain front : List Char} {id : String} {p : Provider}

/-! ## Names on the way -/

theorem OnTheWay.refl (whole : List Char) : OnTheWay whole whole :=
  ⟨[], (List.append_nil whole).symm, fun _ begins => by cases begins⟩

/-- The way to a module leads through the package. -/
theorem onTheWay_module_iff {name : List Char} :
    OnTheWay name (package ++ '.' :: plain) ↔
      OnTheWay name package ∨ ∃ front, name = package ++ '.' :: front ∧ OnTheWay front plain := by
  constructor
  · rintro ⟨rest, whole, ends⟩
    rcases List.append_eq_append_iff.mp whole with ⟨inside, rfl, behind⟩ | ⟨outside, rfl, rfl⟩
    · cases inside with
      | nil => exact .inl (by simpa using OnTheWay.refl package)
      | cons c inside =>
        obtain ⟨rfl, rfl⟩ := List.cons.inj behind
        exact .inr ⟨inside, rfl, rest, rfl, ends⟩
    · refine .inl ⟨outside, rfl, fun c begins => ends c ?_⟩
      rw [List.head?_append, begins, Option.some_or]
  · rintro (⟨rest, rfl, ends⟩ | ⟨front, rfl, rest, rfl, ends⟩)
    · refine ⟨rest ++ '.' :: plain, List.append_assoc .., fun c begins => ?_⟩
      cases rest with
      | nil => simpa using begins.symm
      | cons d rest => exact ends c begins
    · exact ⟨rest, by simp, ends⟩

/-- A name without points is on no way but its own. -/
theorem eq_of_onTheWay (pointless : '.' ∉ plain) (leads : OnTheWay front plain) :
    front = plain := by
  obtain ⟨rest, rfl, ends⟩ := leads
  cases rest with
  | nil => exact (List.append_nil front).symm
  | cons c rest =>
    obtain rfl := ends c rfl
    exact absurd (List.mem_append_right front List.mem_cons_self) pointless

theorem find?_eq_some_iff :
    modules.find? plain = some p ↔ p ∈ modules.providers ∧ plainId p.id = plain := by
  constructor
  · intro found
    exact ⟨List.mem_of_find?_eq_some found, by simpa using List.find?_some found⟩
  · rintro ⟨among, rfl⟩
    obtain ⟨q, found⟩ : ∃ q, modules.find? (plainId p.id) = some q :=
      Option.isSome_iff_exists.mp (List.find?_isSome.mpr ⟨p, among, beq_self_eq_true _⟩)
    -- No other provider has the name, so the first one that has it is this one.
    have same : plainId q.id = plainId p.id := by simpa using List.find?_some found
    rw [found, List.inj_on_of_nodup_map modules.apart (List.mem_of_find?_eq_some found) among same]

/-- No provider has a point in its name. -/
theorem find?_of_pointed (pointed : '.' ∈ plain) : modules.find? plain = none := by
  cases found : modules.find? plain with
  | none => rfl
  | some p =>
    obtain ⟨among, rfl⟩ := find?_eq_some_iff.mp found
    exact absurd pointed (modules.pointless p among)

theorem has_iff : modules.Has package (package ++ '.' :: front) ↔
    (modules.find? front).isSome = true := by
  rw [Option.isSome_iff_exists]
  constructor
  · rintro (⟨rest, whole, -⟩ | ⟨p, among, same⟩)
    · have longer := congrArg List.length whole
      simp only [List.length_append, List.length_cons] at longer
      omega
    · exact ⟨p, find?_eq_some_iff.mpr
        ⟨among, ((List.cons.inj (List.append_cancel_left same)).2).symm⟩⟩
  · rintro ⟨p, found⟩
    obtain ⟨among, rfl⟩ := find?_eq_some_iff.mp found
    exact .inr ⟨p, among, rfl⟩

/-! ## What is missing -/

/-- Of two names on the way to one module, one is on the way to the other. -/
theorem OnTheWay.total {name other whole : List Char} (leads : OnTheWay name whole)
    (also : OnTheWay other whole) : OnTheWay name other ∨ OnTheWay other name := by
  obtain ⟨rest, rfl, ends⟩ := leads
  obtain ⟨rest', same, ends'⟩ := also
  rcases List.append_eq_append_iff.mp same with ⟨between, rfl, rfl⟩ | ⟨between, rfl, rfl⟩
  · exact .inl ⟨between, rfl, fun c begins => ends c (by
      rw [List.head?_append, begins, Option.some_or])⟩
  · exact .inr ⟨between, rfl, fun c begins => ends' c (by
      rw [List.head?_append, begins, Option.some_or])⟩

theorem FirstMissing.unique {whole missing other : List Char}
    (first : FirstMissing modules package whole missing)
    (second : FirstMissing modules package whole other) : missing = other := by
  by_contra apart
  rcases first.leads.total second.leads with before | behind
  · exact first.absent (second.first missing before apart)
  · exact second.absent (first.first other behind (Ne.symm apart))

/-- What is missing behind the package. -/
theorem firstMissing_of (leads : OnTheWay front plain) (absent : modules.find? front = none)
    (first : ∀ name, OnTheWay name front → name ≠ front → (modules.find? name).isSome = true) :
    FirstMissing modules package (package ++ '.' :: plain) (package ++ '.' :: front) where
  leads := onTheWay_module_iff.mpr (.inr ⟨front, rfl, leads⟩)
  absent there := by simpa [absent] using has_iff.mp there
  first name before other := by
    rcases onTheWay_module_iff.mp before with inside | ⟨shorter, rfl, within⟩
    · exact .inl inside
    · exact has_iff.mpr (first shorter within fun same => other (by rw [same]))

/-- A module that is there misses nothing on the way. -/
theorem not_firstMissing {missing : List Char} (found : modules.find? plain = some p) :
    ¬ FirstMissing modules package (package ++ '.' :: plain) missing := by
  intro missed
  have pointless : '.' ∉ plain := fun pointed => by
    rw [find?_of_pointed pointed] at found
    cases found
  rcases onTheWay_module_iff.mp missed.leads with inside | ⟨front, rfl, within⟩
  · exact missed.absent (.inl inside)
  · obtain rfl := eq_of_onTheWay pointless within
    exact missed.absent (has_iff.mpr (by rw [found]; rfl))

/-- What is missing of a name whose first part is no provider. -/
theorem firstMissing_first (absent : modules.find? front = none) (pointless : '.' ∉ front)
    (leads : OnTheWay front plain) :
    FirstMissing modules package (package ++ '.' :: plain) (package ++ '.' :: front) :=
  firstMissing_of leads absent fun _ before other => absurd (eq_of_onTheWay pointless before) other

/-- What is missing behind a provider. -/
theorem firstMissing_second {first second rest : List Char}
    (found : (modules.find? first).isSome = true) (pointless : '.' ∉ first) (also : '.' ∉ second)
    (leads : OnTheWay second rest) :
    FirstMissing modules package (package ++ '.' :: (first ++ '.' :: rest))
      (package ++ '.' :: (first ++ '.' :: second)) := by
  have absent : modules.find? (first ++ '.' :: second) = none :=
    find?_of_pointed (List.mem_append_right first List.mem_cons_self)
  have further : OnTheWay (first ++ '.' :: second) (first ++ '.' :: rest) :=
    onTheWay_module_iff.mpr (.inr ⟨second, rfl, leads⟩)
  refine firstMissing_of further absent fun name before other => ?_
  rcases onTheWay_module_iff.mp before with inside | ⟨shorter, rfl, within⟩
  · rwa [eq_of_onTheWay pointless inside]
  · rw [eq_of_onTheWay also within] at other
    exact absurd rfl other

theorem onTheWay_takeWhile (cs : List Char) : OnTheWay (cs.takeWhile (· ≠ '.')) cs := by
  refine ⟨cs.dropWhile (· ≠ '.'), List.takeWhile_append_dropWhile.symm, fun c begins => ?_⟩
  have ends := List.head?_dropWhile_not (· ≠ '.') cs
  rw [begins] at ends
  simpa using ends

/-- How an id with a point fails: on its first part, or else on the next one. -/
theorem load_pointed {first rest : List Char} (whole : plainId id = first ++ '.' :: rest)
    (pointless : '.' ∉ first) :
    load modules id = .error (if (modules.find? first).isSome = true ∧ '.' ∉ rest then notFound id
      else { kind := .missingModule }) := by
  have front : (plainId id).takeWhile (· ≠ '.') = first := by
    rw [whole, Text.takeWhile_mark pointless]
  have back : (plainId id).dropWhile (· ≠ '.') = '.' :: rest := by
    rw [whole, Text.dropWhile_mark pointless]
  unfold load
  simp only [front, back, Bool.and_eq_true, Bool.not_eq_true', List.contains_eq_mem,
    decide_eq_false_iff_not]
  split_ifs <;> rfl

theorem load_pointless (pointless : '.' ∉ plainId id) :
    load modules id = match modules.find? (plainId id) with
      | some p => .ok p
      | none => .error (notFound id) := by
  unfold load
  simp only [Text.dropWhile_eq_nil pointless]
  rfl

/-- An id is that of a provider, or else what is missing of its module tells how it fails. -/
theorem load_cases (modules : Modules) (package : List Char) (id : String) :
    (∃ p, modules.find? (plainId id) = some p ∧ load modules id = .ok p) ∨
      ∃ missing, FirstMissing modules package (moduleName package id) missing ∧
        load modules id = .error (if missing = moduleName package id then notFound id
          else { kind := .missingModule }) := by
  by_cases pointed : '.' ∈ plainId id
  · obtain ⟨first, rest, whole, pointless⟩ := List.eq_append_cons_of_mem pointed
    rw [load_pointed whole pointless, moduleName, whole]
    right
    cases found : modules.find? first with
    | none =>
      have leads : OnTheWay first (first ++ '.' :: rest) :=
        ⟨_, rfl, fun c begins => (Option.some.inj begins).symm⟩
      refine ⟨_, firstMissing_first found pointless leads, ?_⟩
      -- The part before the point is missed, which is not the whole name.
      have short : package ++ '.' :: first ≠ package ++ '.' :: (first ++ '.' :: rest) := by
        simp
      rw [if_neg short, if_neg (by simp)]
    | some p =>
      have next : '.' ∉ rest.takeWhile (· ≠ '.') := fun within =>
        (Text.of_mem_takeWhile within).2 rfl
      refine ⟨_, firstMissing_second (by rw [found]; rfl) pointless next
        (onTheWay_takeWhile rest), ?_⟩
      simp only [List.append_cancel_left_eq, List.cons.injEq, true_and,
        Text.takeWhile_eq_self_iff, Option.isSome_some]
  · rw [load_pointless pointed]
    cases found : modules.find? (plainId id) with
    | some p => exact .inl ⟨p, rfl, rfl⟩
    | none =>
      refine .inr ⟨_, firstMissing_first found pointed (.refl _), ?_⟩
      rw [moduleName, if_pos rfl]

theorem load_eq_ok_iff : load modules id = .ok p ↔ modules.find? (plainId id) = some p := by
  rcases load_cases modules [] id with ⟨q, found, loaded⟩ | ⟨missing, missed, failed⟩
  · rw [loaded, found, Except.ok.injEq, Option.some.injEq]
  · rw [failed]
    exact ⟨fun same => (nomatch same), fun found => absurd missed (not_firstMissing found)⟩

/-- What is missing of the module of an id tells how the id fails, and the other way round. -/
theorem load_eq_error_iff (modules : Modules) (package : List Char) (id : String)
    (head : FaultHead) :
    load modules id = .error head ↔ ∃ missing,
      FirstMissing modules package (moduleName package id) missing ∧
        head = if missing = moduleName package id then notFound id
          else { kind := .missingModule } := by
  rcases load_cases modules package id with ⟨p, found, loaded⟩ | ⟨missing, missed, failed⟩
  · rw [loaded]
    exact ⟨fun same => (nomatch same), fun ⟨_, missed, _⟩ => absurd missed (not_firstMissing found)⟩
  · rw [failed, Except.error.injEq]
    refine ⟨fun same => ⟨missing, missed, same.symm⟩, fun ⟨other, also, same⟩ => ?_⟩
    rw [same, missed.unique also]

theorem notFound_ne (id : String) : notFound id ≠ { kind := .missingModule } :=
  fun same => by cases congrArg FaultHead.kind same

theorem message_notFound (id : String) :
    (notFound id).message = some ("The provider '" ++ id ++ "' was not found.") :=
  congrArg some (Problem.text_providerNotFound id)

theorem pointless_plainId (pointless : '.' ∉ id.toList) : '.' ∉ plainId id := by
  intro within
  obtain ⟨c, among, same⟩ := List.mem_map.mp within
  split_ifs at same
  · cases same
  · exact pointless (same ▸ among)

/-- An id gives the provider whose module it names. Of any other id the module is missing: the id is
reported as not found where nothing was missing before it, which is so of every id without points,
and else it is told that a module is missing. -/
theorem load_tells_what_is_missing (modules : Modules) (package : List Char) (id : String) :
    (∀ p, load modules id = .ok p ↔
      p ∈ modules.providers ∧ moduleName package p.id = moduleName package id) ∧
      (load modules id = .error (notFound id) ↔
        FirstMissing modules package (moduleName package id) (moduleName package id)) ∧
      (load modules id = .error { kind := .missingModule } ↔ ∃ missing,
        FirstMissing modules package (moduleName package id) missing ∧
          missing ≠ moduleName package id) ∧
      (notFound id).kind = .problem .providerNotFound ∧
      (notFound id).message = some ("The provider '" ++ id ++ "' was not found.") ∧
      ('.' ∉ id.toList →
        (∀ p ∈ modules.providers, moduleName package p.id ≠ moduleName package id) →
          load modules id = .error (notFound id)) := by
  have loads : ∀ p, load modules id = .ok p ↔
      p ∈ modules.providers ∧ moduleName package p.id = moduleName package id := by
    intro p
    rw [load_eq_ok_iff, find?_eq_some_iff, moduleName, moduleName, List.append_cancel_left_eq,
      List.cons.injEq]
    simp only [true_and]
  refine ⟨loads, ?_, ?_, rfl, message_notFound id, fun pointless unknown => ?_⟩
  · rw [load_eq_error_iff modules package]
    constructor
    · rintro ⟨missing, missed, same⟩
      split_ifs at same with itself
      · exact itself ▸ missed
      · exact absurd same (notFound_ne id)
    · exact fun missed => ⟨_, missed, (if_pos rfl).symm⟩
  · rw [load_eq_error_iff modules package]
    refine exists_congr fun missing => and_congr_right fun missed => ?_
    split_ifs with itself
    · exact ⟨fun same => absurd same.symm (notFound_ne id), fun other => absurd itself other⟩
    · exact ⟨fun _ => itself, fun _ => rfl⟩
  · cases loaded : load modules id with
    | ok p => exact absurd ((loads p).mp loaded).2 (unknown p ((loads p).mp loaded).1)
    | error head =>
      rw [load_pointless (pointless_plainId pointless)] at loaded
      split at loaded <;> cases loaded
      rfl

/-- An id without points that differs from a provider's in the case of a letter. -/
theorem load_tells_what_is_missing_of_Openstack :
    '.' ∉ "Openstack".toList ∧
      (∀ p ∈ shipped, moduleName [] p.id ≠ moduleName [] "Openstack") ∧
      load .shipped "Openstack" = .error (notFound "Openstack") ∧
      (notFound "Openstack").message = some "The provider 'Openstack' was not found." := by
  have pointless : '.' ∉ "Openstack".toList := by decide +kernel
  have unknown : ∀ p ∈ shipped, moduleName [] p.id ≠ moduleName [] "Openstack" := by
    decide +kernel
  obtain ⟨-, -, -, -, message, reported⟩ := load_tells_what_is_missing .shipped [] "Openstack"
  exact ⟨pointless, unknown, reported pointless unknown, message⟩

/-- It is not so that every id that names no provider is reported as not found. -/
theorem not_load_notFound_of_points :
    ¬ ∀ id, (∀ p ∈ shipped, plainId p.id ≠ plainId id) →
      load .shipped id = .error (notFound id) := by
  intro claimed
  have unknown : ∀ p ∈ shipped, plainId p.id ≠ plainId "no.such" := by decide +kernel
  have whole : plainId "no.such" = ['n', 'o'] ++ '.' :: ['s', 'u', 'c', 'h'] := by decide +kernel
  have missed : load .shipped "no.such" = .error { kind := .missingModule } := by
    rw [load_pointed whole (by decide), if_neg (by decide +kernel)]
  have same := missed.symm.trans (claimed "no.such" unknown)
  exact notFound_ne "no.such" (Except.error.inj same).symm

end CloudSession.Provider
