import CloudSession.Proofs.Supplier.Forgetting
import CloudSession.Proofs.Supplier.Landing
import CloudSession.VCloud.Hub

/-! # Coherence of the caches

A map is made from a session, so an order to forget is kept only if a map that is handed out after
both of its halves comes from a session of after the first. It does: whoever fetches that map
started to after the second half, and asked for the session after that.
-/

namespace CloudSession.VCloud.Hub

open Chronicle

variable {terms : Terms} {h h' h'' : Hub}

/-- A map is the directory of the session that a call of its fetch was given. -/
def Sourced (h : Hub) (f : FlightId) (map : Fields Value) : Prop :=
  ∃ call c s, .called f call ∈ h.orgMaps.chronicle ∧ h.purposes[c]? = some (.orgMap call) ∧
    h.sessions.stage? c = some (.done (.ok s)) ∧ s.directory = map

/-- A session is from a login that started since an earlier time. -/
def Renewed (since h : Hub) (s : Session) : Prop :=
  ∃ f, h.sessions.chronicle.outcomeOf f = some (.ok s) ∧
    since.sessions.chronicle.generationOf f = none

/-! ## Steps -/

/-- What an event can do to the desks. -/
inductive Move (terms : Terms) (h h' : Hub) : Prop where
  | ask (purpose : Purpose) : Desk.Move terms.ttl h.latch h.sessions h'.sessions →
    h'.sessions.callers.length = h.sessions.callers.length + 1 →
    h'.purposes = h.purposes ++ [purpose] →
    (∀ call, purpose = .orgMap call → ∃ f, .called f call ∈ h.orgMaps.chronicle) →
    h'.orgMaps = h.orgMaps → Move terms h h'
  | sessions : Desk.Move terms.ttl h.latch h.sessions h'.sessions →
    h'.sessions.callers.length = h.sessions.callers.length →
    h'.purposes = h.purposes → h'.orgMaps = h.orgMaps → Move terms h h'
  | orgMaps : Desk.Move terms.ttl h.latch h.orgMaps h'.orgMaps →
    (∀ i ticket map, h'.orgMaps.stage? i = some (.landing ticket (.ok map)) →
      h.orgMaps.stage? i = some (.landing ticket (.ok map)) ∨ h.Sourced ticket.flight map) →
    h'.purposes = h.purposes → h'.sessions = h.sessions → Move terms h h'
  | forgetSessions : h'.sessions = h.sessions.forget → h'.purposes = h.purposes →
    h'.orgMaps = h.orgMaps → Move terms h h'
  | forgetOrgMaps : h'.orgMaps = h.orgMaps.forget → h'.purposes = h.purposes →
    h'.sessions = h.sessions → Move terms h h'

theorem move_ask (terms : Terms) (h : Hub) {purpose : Purpose}
    (called : ∀ call, purpose = .orgMap call → ∃ f, .called f call ∈ h.orgMaps.chronicle) :
    Move terms h (h.ask purpose) :=
  .ask purpose (Traffic.move_call (m := terms.sessions) h.atSessions _ none)
    (Traffic.length_callers_call h.atSessions _ none) rfl called rfl

/-- The call that a leader is inside of ends as the session it asked for does. -/
theorem move_fetchOrgs (accounts : h.orgMaps.Accounts) {i call : Nat} {ticket : Ticket}
    {count : Nat} {deadline : Option Float}
    (inside : h.orgMaps.stage? i = some (.fetching call ticket count deadline)) :
    Move terms h (h.fetchOrgs terms call) := by
  unfold fetchOrgs
  split
  · refine move_ask terms h ?_
    rintro _ ⟨⟩
    exact ⟨ticket.flight, accounts.inside _ _ _ _ _ inside⟩
  · rename_i errand found
    obtain ⟨known, wanted, -⟩ := List.findIdx?_eq_some_iff_getElem.mp found
    have wanted : h.purposes[errand]? = some (.orgMap call) := by
      rw [List.getElem?_eq_getElem known, of_decide_eq_true wanted]
    have move := Traffic.move_land (m := terms.orgMaps) h.atOrgMaps call
    split
    · rename_i s given
      refine .orgMaps (move (.value s.directory)) ?_ rfl rfl
      intro j ticket' map lands
      rcases Traffic.landing_of_land lands with before | ⟨same, _, _, there⟩
      · exact .inl before
      · cases same
        exact .inr ⟨call, errand, s, accounts.inside _ _ _ _ _ there, wanted, given, rfl⟩
    · rename_i fault given
      refine .orgMaps (move (.known fault)) ?_ rfl rfl
      intro j ticket' map lands
      rcases Traffic.landing_of_land lands with before | ⟨same, -⟩
      · exact .inl before
      · cases same
    · exact .sessions .rest rfl rfl rfl

theorem move_goOrgs (accounts : h.orgMaps.Accounts) (i : Nat) :
    Move terms h (h.goOrgs terms i) := by
  unfold goOrgs
  split
  · exact move_fetchOrgs accounts ‹_›
  · exact .orgMaps (Traffic.move_go (m := terms.orgMaps) h.atOrgMaps i)
      (fun _ _ _ lands => .inl (Traffic.landing_of_go lands)) rfl rfl

theorem move_step (accounts : h.orgMaps.Accounts) (event : Event) :
    Move terms h (h.step terms event) := by
  cases event with
  | session | token | orgListUri =>
    refine move_ask terms h ?_
    rintro _ ⟨⟩
  | orgs =>
    exact .orgMaps (Traffic.move_call (m := terms.orgMaps) h.atOrgMaps _ none)
      (fun _ _ _ lands => .inl (Traffic.landing_of_call lands)) rfl rfl
  | goSession i =>
    exact .sessions (Traffic.move_go (m := terms.sessions) h.atSessions i)
      (Traffic.length_callers_go terms.sessions h.atSessions i) rfl rfl
  | goOrgs i => exact move_goOrgs accounts i
  | land login landing =>
    exact .sessions (Traffic.move_land (m := terms.sessions) h.atSessions login landing)
      (Traffic.length_callers_land terms.sessions h.atSessions login landing) rfl rfl
  | forgetSessions => exact .forgetSessions rfl rfl rfl
  | forgetOrgMaps => exact .forgetOrgMaps rfl rfl rfl
  | pass | setClock | trySet => exact .sessions .rest rfl rfl rfl

/-! ## What stays -/

/-- What a later hub has of an earlier one. -/
structure Precedes (h h' : Hub) : Prop where
  sessions : h.sessions.Precedes h'.sessions
  orgMaps : h.orgMaps.Precedes h'.orgMaps
  purposes : h.purposes <+: h'.purposes

namespace Precedes

theorem refl (h : Hub) : h.Precedes h := ⟨.refl _, .refl _, List.prefix_rfl⟩

theorem trans (first : h.Precedes h') (second : h'.Precedes h'') : h.Precedes h'' :=
  ⟨first.sessions.trans second.sessions, first.orgMaps.trans second.orgMaps,
    first.purposes.trans second.purposes⟩

theorem of_move (move : Move terms h h') : h.Precedes h' := by
  cases move with
  | ask purpose move _ purposes _ orgMaps =>
    exact ⟨.of_move move, orgMaps ▸ .refl _, purposes ▸ List.prefix_append _ _⟩
  | sessions move _ purposes orgMaps =>
    exact ⟨.of_move move, orgMaps ▸ .refl _, purposes ▸ List.prefix_rfl⟩
  | orgMaps move _ purposes sessions =>
    exact ⟨sessions ▸ .refl _, .of_move move, purposes ▸ List.prefix_rfl⟩
  | forgetSessions sessions purposes orgMaps =>
    exact ⟨sessions ▸ .forget _, orgMaps ▸ .refl _, purposes ▸ List.prefix_rfl⟩
  | forgetOrgMaps orgMaps purposes sessions =>
    exact ⟨sessions ▸ .refl _, orgMaps ▸ .forget _, purposes ▸ List.prefix_rfl⟩

theorem getElem? (precedes : h.Precedes h') {c : Nat} {purpose : Purpose}
    (wanted : h.purposes[c]? = some purpose) : h'.purposes[c]? = some purpose := by
  obtain ⟨more, added⟩ := precedes.purposes
  rw [← added, List.getElem?_append_left (List.getElem?_eq_some_iff.mp wanted).1, wanted]

theorem sourced (precedes : h.Precedes h') {f : FlightId} {map : Fields Value}
    (sourced : h.Sourced f map) : h'.Sourced f map := by
  obtain ⟨call, c, s, called, wanted, given, same⟩ := sourced
  exact ⟨call, c, s, precedes.orgMaps.mem called, precedes.getElem? wanted,
    precedes.sessions.done _ _ given, same⟩

end Precedes

/-! ## Order -/

/-- Both desks are in order, and maps come from sessions that were asked for by their fetch. -/
structure Orderly (terms : Terms) (h : Hub) : Prop where
  sessions : h.sessions.Orderly terms.ttl
  orgMaps : h.orgMaps.Orderly terms.ttl
  accounts : h.orgMaps.Accounts
  purposes : h.purposes.length = h.sessions.callers.length
  /-- Nobody asks on behalf of a call before it is made. -/
  errands : ∀ (c : Nat) call, h.purposes[c]? = some (.orgMap call) →
    ∃ f, .called f call ∈ h.orgMaps.chronicle
  lands : ∀ i ticket map, h.orgMaps.stage? i = some (.landing ticket (.ok map)) →
    h.Sourced ticket.flight map
  landed : ∀ f map, h.orgMaps.chronicle.outcomeOf f = some (.ok map) → h.Sourced f map

namespace Orderly

theorem start (clock : Float) (log : FaultLog) (latch : Latch) :
    Orderly terms { clock := clock, log := log, latch := latch } where
  sessions := .start
  orgMaps := .start
  accounts := .start
  purposes := rfl
  errands c call wanted := by simp at wanted
  lands i ticket map there := by simp [Desk.stage?] at there
  landed f map ended := by cases ended

/-- Where nothing comes to the maps, what is known of them stays known. -/
theorem of_sessions (order : h.Orderly terms) (precedes : h.Precedes h')
    (orgMaps : h'.orgMaps = h.orgMaps) (sessions : h'.sessions.Orderly terms.ttl)
    (purposes : h'.purposes.length = h'.sessions.callers.length)
    (errands : ∀ (c : Nat) call, h'.purposes[c]? = some (.orgMap call) →
      ∃ f, .called f call ∈ h.orgMaps.chronicle) : h'.Orderly terms where
  sessions := sessions
  orgMaps := orgMaps ▸ order.orgMaps
  accounts := orgMaps ▸ order.accounts
  purposes := purposes
  errands := orgMaps ▸ errands
  lands i ticket map there := precedes.sourced (order.lands i ticket map (orgMaps ▸ there))
  landed f map ended := precedes.sourced (order.landed f map (orgMaps ▸ ended))

theorem of_move (move : Move terms h h') (order : h.Orderly terms) : h'.Orderly terms := by
  have precedes := Precedes.of_move move
  cases move with
  | ask purpose move one_more purposes called orgMaps =>
    refine order.of_sessions precedes orgMaps (move.orderly order.sessions) ?_ ?_
    · rw [purposes, one_more, List.length_append, order.purposes, List.length_singleton]
    · intro c call wanted
      rw [purposes, List.getElem?_append] at wanted
      split at wanted
      · exact order.errands c call wanted
      · have mine := List.mem_of_getElem? wanted
        exact called call (List.mem_singleton.mp mine).symm
  | sessions move as_many purposes orgMaps =>
    refine order.of_sessions precedes orgMaps (move.orderly order.sessions) ?_ ?_
    · rw [purposes, as_many, order.purposes]
    · exact purposes ▸ order.errands
  | forgetSessions sessions purposes orgMaps =>
    refine order.of_sessions precedes orgMaps (sessions ▸ order.sessions.forget) ?_ ?_
    · rw [purposes, sessions, order.purposes]
      rfl
    · exact purposes ▸ order.errands
  | orgMaps move brings purposes sessions =>
    refine ⟨sessions ▸ order.sessions, move.orderly order.orgMaps,
      move.accounts order.orgMaps order.accounts, ?_, ?_, ?_, ?_⟩
    · rw [purposes, sessions, order.purposes]
    · intro c call wanted
      obtain ⟨f, called⟩ := order.errands c call (purposes ▸ wanted)
      exact ⟨f, precedes.orgMaps.mem called⟩
    · intro i ticket map there
      rcases brings i ticket map there with before | sourced
      · exact precedes.sourced (order.lands i ticket map before)
      · exact precedes.sourced sourced
    · intro f map ended
      rcases move.outcomeOf ended with before | ⟨i, ticket, lands, rfl⟩
      · exact precedes.sourced (order.landed f map before)
      · exact precedes.sourced (order.lands i ticket map lands)
  | forgetOrgMaps orgMaps purposes sessions =>
    refine ⟨sessions ▸ order.sessions, orgMaps ▸ order.orgMaps.forget, ?_, ?_, ?_, ?_, ?_⟩
    · rw [orgMaps]
      exact order.accounts.forget
    · rw [purposes, sessions, order.purposes]
    · intro c call wanted
      obtain ⟨f, called⟩ := order.errands c call (purposes ▸ wanted)
      exact ⟨f, precedes.orgMaps.mem called⟩
    · intro i ticket map there
      rw [orgMaps] at there
      exact precedes.sourced (order.lands i ticket map there)
    · intro f map ended
      rw [orgMaps] at ended
      exact precedes.sourced (order.landed f map ended)

end Orderly

/-! ## Runs -/

theorem orderly_run (order : h.Orderly terms) (events : List Event) :
    (h.run terms events).Orderly terms := by
  induction events generalizing h with
  | nil => exact order
  | cons event events ih => exact ih (order.of_move (move_step order.accounts event))

theorem precedes_run (order : h.Orderly terms) (events : List Event) :
    h.Precedes (h.run terms events) := by
  induction events generalizing h with
  | nil => exact .refl h
  | cons event events ih =>
    have move : Move terms h (h.step terms event) := move_step order.accounts event
    exact (Precedes.of_move move).trans (ih (order.of_move move))

/-- What can come of caches that nobody used yet. -/
def Reachable (terms : Terms) (h : Hub) : Prop :=
  ∃ clock log latch events, h = run terms { clock := clock, log := log, latch := latch } events

theorem Reachable.orderly (reach : h.Reachable terms) : h.Orderly terms := by
  obtain ⟨clock, log, latch, events, rfl⟩ := reach
  exact orderly_run (.start clock log latch) events

/-! ## After an order to forget -/

/-- Whoever asks for a session after the first half is given one from a later login. -/
theorem renewed_of_forgotten (before : h.Orderly terms) (order : h'.Orderly terms)
    (precedes : (h.step terms .forgetSessions).Precedes h') {c : Nat} {s : Session}
    (came_after : h.sessions.callers.length ≤ c)
    (given : h'.sessions.stage? c = some (.done (.ok s))) : h.Renewed h' s := by
  obtain ⟨recent, added⟩ := precedes.sessions.chronicle
  exact Desk.brought_since before.sessions order.sessions added came_after given

/-- Calls of the fetch of a flight ask for the session after the flight started. -/
theorem asked_since (before : h.Orderly terms) (order : h'.Orderly terms)
    (precedes : h.Precedes h') {f : FlightId} {call c : Nat}
    (unstarted : h.orgMaps.chronicle.generationOf f = none)
    (called : .called f call ∈ h'.orgMaps.chronicle)
    (wanted : h'.purposes[c]? = some (.orgMap call)) : h.sessions.callers.length ≤ c := by
  rw [← before.purposes]
  by_contra known
  obtain ⟨purpose, asked⟩ : ∃ purpose, h.purposes[c]? = some purpose :=
    ⟨_, List.getElem?_eq_getElem (Nat.lt_of_not_le known)⟩
  have same := precedes.getElem? asked
  rw [wanted] at same
  cases same
  obtain ⟨g, earlier⟩ := before.errands c call asked
  have own := order.accounts.numbered.unique called (precedes.orgMaps.mem earlier)
  subst own
  exact before.orgMaps.lawful.started_of_called earlier unstarted

/-- Whatever the callers do between the halves of an order to forget and after them, whoever asks
for the map after both halves is given the directory of a session from a login that started after
the first, and whoever asks for a session after the first half, to have it or its token or its list
of organisations, is given one from such a login. -/
theorem renewed_after_forgetting (terms : Terms) (reach : h.Reachable terms)
    (between after : List Event) :
    let halfway := (h.step terms .forgetSessions).run terms between
    let forgotten := halfway.step terms .forgetOrgMaps
    let later := forgotten.run terms after
    (∀ i map, forgotten.orgMaps.callers.length ≤ i →
      later.orgMaps.stage? i = some (.done (.ok map)) →
        ∃ s, s.directory = map ∧ h.Renewed later s) ∧
    (∀ c s, h.sessions.callers.length ≤ c → later.sessions.stage? c = some (.done (.ok s)) →
      h.Renewed later s) ∧
    ∀ c answer, h.sessions.callers.length ≤ c → later.answer? c = some answer →
      ∃ purpose s, later.purposes[c]? = some purpose ∧ purpose.answer s = .ok answer ∧
        h.Renewed later s := by
  intro halfway forgotten later
  have before := reach.orderly
  have started := before.of_move (move_step before.accounts .forgetSessions)
  have midway : halfway.Orderly terms := orderly_run started between
  have dropped := midway.of_move (move_step midway.accounts .forgetOrgMaps)
  have order : later.Orderly terms := orderly_run dropped after
  have since_first : (h.step terms .forgetSessions).Precedes halfway :=
    precedes_run started between
  have since_second : forgotten.Precedes later := precedes_run dropped after
  have since_midway : halfway.Precedes later :=
    (Precedes.of_move (move_step midway.accounts .forgetOrgMaps)).trans since_second
  have renewed : ∀ c s, h.sessions.callers.length ≤ c →
      later.sessions.stage? c = some (.done (.ok s)) → h.Renewed later s := by
    intro c s came_after given
    exact renewed_of_forgotten before order (since_first.trans since_midway) came_after given
  refine ⟨?_, renewed, ?_⟩
  · intro i map came_after given
    obtain ⟨recent, added⟩ := since_second.orgMaps.chronicle
    obtain ⟨f, ended, unstarted⟩ :=
      Desk.brought_since midway.orgMaps order.orgMaps added came_after given
    obtain ⟨call, c, s, called, wanted, session, same⟩ := order.landed f map ended
    have asked_after := asked_since midway order since_midway unstarted called wanted
    refine ⟨s, same, renewed c s ?_ session⟩
    exact Nat.le_trans since_first.sessions.callers asked_after
  · intro c answer came_after answered
    unfold answer? at answered
    split at answered
    · rename_i s purpose given wanted
      refine ⟨purpose, s, wanted, ?_, renewed c s came_after given⟩
      cases told : purpose.answer s with
      | ok own =>
        rw [told] at answered
        cases answered
        rfl
      | error fault =>
        rw [told] at answered
        cases answered
    · cases answered

/-- Somebody asked for the map, and the login that it takes is under way. -/
def oneFetching : Hub :=
  run ⟨some (.whole 60), 1⟩ { clock := 0 } ([.orgs] ++ List.replicate 4 (.goOrgs 0) ++
    List.replicate 3 (.goSession 0))

theorem reachable_oneFetching : oneFetching.Reachable ⟨some (.whole 60), 1⟩ :=
  ⟨0, {}, {}, _, rfl⟩

/-- The login and the fetch of the map end between the halves, so that the old map is remembered
for a while, and is not once the second half was done. -/
theorem renewed_after_forgetting_late_map :
    let terms : Terms := ⟨some (.whole 60), 1⟩
    let old : Session :=
      { token := .text "t1", directory := [("a", .text "1")], created := .whole 0 }
    let new : Session :=
      { token := .text "t2", directory := [("b", .text "2")], created := .whole 0 }
    let halfway := (oneFetching.step terms .forgetSessions).run terms
      [.land 0 (.value old), .goSession 0, .goOrgs 0, .goOrgs 0]
    let later := (halfway.step terms .forgetOrgMaps).run terms
      [.orgs, .goOrgs 1, .goOrgs 1, .goOrgs 1, .goOrgs 1, .goSession 1, .goSession 1, .goSession 1,
        .token, .goSession 2, .land 1 (.value new), .goSession 1, .goSession 2, .goOrgs 1,
        .goOrgs 1]
    oneFetching.Reachable terms ∧ halfway.orgMaps.cell.memo = some (old.directory, 0) ∧
      later.orgMaps.stage? 0 = some (.done (.ok old.directory)) ∧
      later.orgMaps.stage? 1 = some (.done (.ok new.directory)) ∧
      (∃ s, s.directory = new.directory ∧ oneFetching.Renewed later s) ∧
      later.answer? 2 = some (.value (.text "t2")) ∧ oneFetching.Renewed later new :=
  ⟨reachable_oneFetching, rfl, rfl, rfl,
    (renewed_after_forgetting _ reachable_oneFetching _ _).1 1 _ (Nat.le_refl 1) rfl, rfl,
    (renewed_after_forgetting _ reachable_oneFetching _ _).2.1 2 _ (Nat.le_succ 1) rfl⟩

end CloudSession.VCloud.Hub
