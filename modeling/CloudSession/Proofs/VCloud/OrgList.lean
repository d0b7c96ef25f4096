import CloudSession.Proofs.VCloud.Age

/-! # Where organisations are listed

The uri that lists organisations is cut from the uri of the last one: at the first place where
`org` stands before a slash, whatever comes before it there. That is the parent collection unless
such a place is in the host or in the path that leads to the collection.
-/

namespace CloudSession.VCloud

/-- What a uri is cut at. -/
def orgMark : List Char := ['o', 'r', 'g', '/']

/-- The first mark in a text is the one that follows these characters. -/
def LeadsToMark (front : List Char) : Prop :=
  ∀ earlier, earlier ++ orgMark <+: front ++ orgMark → earlier = front

/-- A text ends in `org`, and it is the shortest beginning of a line that does so before a
slash. -/
structure EndsAtFirstOrg (line uri : List Char) : Prop where
  begins : uri ++ ['/'] <+: line
  ends : ['o', 'r', 'g'] <:+ uri
  first : ∀ shorter, shorter ++ orgMark <+: line → uri.length ≤ shorter.length + 3

theorem cutOrgs_dropping {rest : List Char} (oneLine : '\n' ∉ rest) : cutOrgs true rest = [] := by
  induction rest with
  | nil => rfl
  | cons c rest ih =>
    obtain ⟨within, further⟩ := not_or.mp (mt List.mem_cons.mpr oneLine)
    rw [cutOrgs, if_neg (Ne.symm within), ih further]

/-- A character that no mark begins at is kept. -/
theorem cutOrgs_cons {c : Char} {rest : List Char} (unmarked : ¬ orgMark <+: c :: rest) :
    cutOrgs false (c :: rest) = c :: cutOrgs false rest := by
  rw [cutOrgs]
  rintro after rfl rfl
  exact unmarked ⟨after, rfl⟩

theorem leadsToMark_nil : LeadsToMark [] := by
  intro earlier begins
  have short := begins.length_le
  rw [List.length_append] at short
  exact List.eq_nil_of_length_eq_zero (Nat.eq_zero_of_le_zero (Nat.le_of_add_le_add_right short))

theorem LeadsToMark.cons {c : Char} {front : List Char} (leads : LeadsToMark front)
    (unmarked : ¬ orgMark <+: c :: front ++ orgMark) : LeadsToMark (c :: front) := by
  intro earlier begins
  cases earlier with
  | nil => exact absurd begins unmarked
  | cons d earlier =>
    obtain ⟨rfl, further⟩ := List.cons_prefix_cons.mp begins
    rw [leads earlier further]

theorem LeadsToMark.tail {c : Char} {front : List Char} (leads : LeadsToMark (c :: front)) :
    LeadsToMark front := by
  intro earlier begins
  have longer : (c :: earlier) ++ orgMark <+: (c :: front) ++ orgMark :=
    List.cons_prefix_cons.mpr ⟨rfl, begins⟩
  exact (List.cons.inj (leads _ longer)).2

/-- A line is cut behind the `org` of its first mark. -/
theorem LeadsToMark.cutOrgs_eq {front back : List Char} (leads : LeadsToMark front)
    (oneLine : '\n' ∉ back) :
    cutOrgs false (front ++ orgMark ++ back) = front ++ ['o', 'r', 'g'] := by
  induction front with
  | nil =>
    show 'o' :: 'r' :: 'g' :: cutOrgs true back = _
    rw [cutOrgs_dropping oneLine]
    rfl
  | cons c front ih =>
    have unmarked : ¬ orgMark <+: c :: (front ++ orgMark ++ back) := by
      intro here
      have begins : [] ++ orgMark <+: (c :: front) ++ orgMark :=
        List.prefix_of_prefix_length_le here ⟨back, rfl⟩ (by simp [orgMark])
      cases leads [] begins
    rw [List.cons_append, List.cons_append, cutOrgs_cons unmarked, ih leads.tail, List.cons_append]

theorem LeadsToMark.endsAtFirstOrg {front : List Char} (leads : LeadsToMark front)
    (back : List Char) : EndsAtFirstOrg (front ++ orgMark ++ back) (front ++ ['o', 'r', 'g']) where
  begins := ⟨back, by simp [orgMark]⟩
  ends := ⟨front, rfl⟩
  first shorter begins := by
    refine Nat.le_of_not_lt fun less => ?_
    rw [List.length_append] at less
    have inside : shorter ++ orgMark <+: front ++ orgMark := by
      refine List.prefix_of_prefix_length_le begins ⟨back, rfl⟩ ?_
      rw [List.length_append, List.length_append]
      exact Nat.add_le_add_right (Nat.le_of_lt (Nat.lt_of_add_lt_add_right less)) _
    rw [leads shorter inside] at less
    exact Nat.lt_irrefl _ less

/-- Where there is a mark there is a first one. -/
theorem exists_leadsToMark {line : List Char} (marked : orgMark <:+: line) :
    ∃ front back, line = front ++ orgMark ++ back ∧ LeadsToMark front := by
  induction line with
  | nil => exact absurd marked (by decide)
  | cons c rest ih =>
    by_cases here : orgMark <+: c :: rest
    · obtain ⟨back, whole⟩ := here
      exact ⟨[], back, whole.symm, leadsToMark_nil⟩
    · obtain ⟨front, back, rfl, leads⟩ := ih ((List.infix_cons_iff.mp marked).resolve_left here)
      exact ⟨c :: front, back, rfl, leads.cons fun begins => here (begins.trans ⟨back, rfl⟩)⟩

/-- No mark reaches from before a slash into the mark behind it. -/
theorem unmarked_before (base : List Char) (unmarked : ¬ orgMark <:+: base ++ ['/']) :
    ¬ orgMark <+: base ++ ['/'] ++ orgMark :=
  match base with
  | [] | [_] | [_, _] => by simp [orgMark]
  | _ :: _ :: _ :: _ => fun here =>
    unmarked (List.prefix_of_prefix_length_le here ⟨orgMark, rfl⟩ (by simp [orgMark])).isInfix

/-- A mark behind characters that hold none with the slash behind them is the first one. -/
theorem leadsToMark_of_unmarked {base : List Char} (unmarked : ¬ orgMark <:+: base ++ ['/']) :
    LeadsToMark (base ++ ['/']) := by
  induction base with
  | nil => exact leadsToMark_nil.cons (unmarked_before [] unmarked)
  | cons c base ih =>
    have behind : ¬ orgMark <:+: base ++ ['/'] :=
      fun marked => unmarked (List.infix_cons_iff.mpr (.inr marked))
    exact (ih behind).cons (unmarked_before (c :: base) unmarked)

/-- An href that leads to an organisation is cut at its first mark, which is the one behind the
collection unless there is one before. -/
theorem cutOrgs_href (base id : List Char) (oneLine : '\n' ∉ base ++ id) :
    EndsAtFirstOrg (base ++ ['/'] ++ orgMark ++ id)
        (cutOrgs false (base ++ ['/'] ++ orgMark ++ id)) ∧
      (cutOrgs false (base ++ ['/'] ++ orgMark ++ id) = base ++ ['/', 'o', 'r', 'g'] ↔
        ¬ orgMark <:+: base ++ ['/']) := by
  have idLine : '\n' ∉ id := fun within => oneLine (List.mem_append_right base within)
  by_cases marked : orgMark <:+: base ++ ['/']
  · obtain ⟨front, back, split, leads⟩ := exists_leadsToMark marked
    have restLine : '\n' ∉ back ++ orgMark ++ id := by
      have kept : '\n' ∉ front ++ orgMark ++ back := split ▸ by
        simpa using fun within => oneLine (List.mem_append_left id within)
      simp only [List.mem_append, not_or] at kept ⊢
      exact ⟨⟨kept.2, kept.1.2⟩, idLine⟩
    have whole : base ++ ['/'] ++ orgMark ++ id = front ++ orgMark ++ (back ++ orgMark ++ id) := by
      rw [split]
      simp only [List.append_assoc]
    rw [whole, leads.cutOrgs_eq restLine]
    -- Cut at an earlier mark, the href is shorter than its parent collection.
    refine ⟨leads.endsAtFirstOrg _, fun same => ?_, absurd marked⟩
    have longer := congrArg List.length same
    have shorter := congrArg List.length split
    simp only [List.length_append, orgMark, List.length_cons] at longer shorter
    omega
  · have leads := leadsToMark_of_unmarked marked
    rw [leads.cutOrgs_eq idLine]
    exact ⟨leads.endsAtFirstOrg id, fun _ => marked, fun _ => List.append_assoc base _ _⟩

namespace Caches

variable {σ : Type}

/-- Whatever the other organisations are: the uri that lists them is the href of the last one up to
its first `org` before a slash. It is the parent collection of that organisation, unless there is
such a place before the collection. -/
theorem orgListUri_ends_at_first_org (c : Caches σ) {w w' : World σ} {s : Session}
    (session : c.session.play w = (.ok s, w')) {others : Fields Value} {key base id : String}
    {name sort : Value}
    (last : s.directory = others ++ [(key, .reference name (.text (base ++ "/org/" ++ id)) sort)])
    (oneLine : '\n' ∉ (base ++ id).toList) :
    ∃ uri, c.orgListUri.play w = (.ok uri, w') ∧
      EndsAtFirstOrg (base ++ "/org/" ++ id).toList uri.toList ∧
      (uri = base ++ "/org" ↔ ¬ "org/".toList <:+: (base ++ "/").toList) := by
  obtain ⟨ends, parent⟩ :=
    cutOrgs_href base.toList id.toList (by rwa [String.toList_append] at oneLine)
  have found : orgListUriIn s = .ok (orgList (base ++ "/org/" ++ id)) := by
    rw [orgListUriIn, last, Entries.values, List.map_append]
    simp only [List.map_cons, List.map_nil, List.getLast?_append, List.getLast?_singleton,
      Option.some_or]
  have whole : (base ++ "/org/" ++ id).toList = base.toList ++ ['/'] ++ orgMark ++ id.toList := by
    simp [orgMark]
  refine ⟨orgList (base ++ "/org/" ++ id), ?_, ?_, ?_⟩
  · rw [orgListUri, Act.play_bind_of_ok session, found]
    rfl
  · rw [orgList, whole, String.toList_ofList]
    exact ends
  · rw [orgList, whole, ← String.toList_inj, String.toList_ofList, String.toList_append,
      String.toList_append]
    exact parent

/-- An organisation at an href below others. -/
def organisation (base id : String) : Value :=
  .reference .null (.text (base ++ "/org/" ++ id)) .null

open Account in
/-- Caches before their first login, which finds an organisation of no type and then this one. -/
def leadingTo (base id : String) : World Account where
  clock := 1000
  own :=
    { outcomes := fun _ => .ok (.text "t1", [("o1", .null), ("o2", organisation base id)]) }

open Account in
theorem session_leadingTo (base id : String) :
    (caches minute).session.play (leadingTo base id) =
      (.ok ⟨.text "t1", [("o1", .null), ("o2", organisation base id)], .real 1000⟩,
        ((caches minute).session.play (leadingTo base id)).2) :=
  rfl

open Account in
/-- Neither the host nor the path has `org` before a slash, although both have it elsewhere. -/
theorem orgListUri_ends_at_first_org_of_parent :
    let w := leadingTo "https://org.example.com/orgs" "52"
    '\n' ∉ ("https://org.example.com/orgs" ++ "52").toList ∧
      ((caches minute).orgListUri.play w).1 = .ok ("https://org.example.com/orgs" ++ "/org") := by
  have oneLine : '\n' ∉ ("https://org.example.com/orgs" ++ "52").toList := by decide +kernel
  have last : [("o1", .null), ("o2", organisation "https://org.example.com/orgs" "52")] =
      [("o1", .null)] ++ [("o2", organisation "https://org.example.com/orgs" "52")] := rfl
  obtain ⟨uri, played, -, parent⟩ := orgListUri_ends_at_first_org (caches minute)
    (session_leadingTo "https://org.example.com/orgs" "52") last oneLine
  refine ⟨oneLine, ?_⟩
  rw [played, parent.mpr (by decide +kernel)]

open Account in
/-- It is not so that the uri that lists organisations is always the parent of the last one. -/
theorem not_orgListUri_parent_on_org_host :
    ¬ ∀ base id : String, '\n' ∉ (base ++ id).toList → id ≠ "" → '/' ∉ id.toList →
      ((caches minute).orgListUri.play (leadingTo base id)).1 = .ok (base ++ "/org") := by
  intro claimed
  have parent := claimed "https://vcloud.example.org/api" "48" (by decide +kernel)
    (by decide +kernel) (by decide +kernel)
  have cut : (match ((caches minute).orgListUri.play
      (leadingTo "https://vcloud.example.org/api" "48")).1 with
    | .ok uri => uri == "https://vcloud.example.org"
    | .error _ => false) = true := by decide +kernel
  rw [parent] at cut
  exact absurd cut (by decide +kernel)

end Caches

end CloudSession.VCloud
