import CloudSession.Proofs.Supplier.Calls

/-! # Every flight lands

A flight in progress has a leader who is on the way with it, whether it is current or was made to
be forgotten, so nobody waits for a flight that nobody flies. A leader who ends on a fault leaves
what the cell remembers as it is, and his flight blocks nobody from then on.
-/

namespace CloudSession

open Chronicle

variable {α : Type} {ttl : Option Number}

/-! ## On the way -/

/-- A caller leads a flight and is inside the loop of its attempts. -/
inductive Desk.Tries (d : Desk α) (i : Nat) (f : FlightId) : Prop where
  | attempting {ticket : Ticket} {count : Nat} {deadline : Option Float} :
    d.stage? i = some (.attempting ticket count deadline) → ticket.flight = f → Tries d i f
  | calling {ticket : Ticket} {count : Nat} {deadline : Option Float} :
    d.stage? i = some (.calling ticket count deadline) → ticket.flight = f → Tries d i f
  | fetching {call : Nat} {ticket : Ticket} {count : Nat} {deadline : Option Float} :
    d.stage? i = some (.fetching call ticket count deadline) → ticket.flight = f → Tries d i f

/-- A caller leads a flight: he tries, or his last attempt is over and landing is what he does
next. -/
inductive Desk.Flies (d : Desk α) (i : Nat) (f : FlightId) : Prop where
  | tries : d.Tries i f → Flies d i f
  | lands {ticket : Ticket} {outcome : Except FaultId α} :
    d.stage? i = some (.landing ticket outcome) → ticket.flight = f → Flies d i f

namespace Desk.Orderly

variable {d : Desk α} {f : FlightId} {i : Nat}

/-- Whoever started a flight in progress is still on the way with it. -/
theorem flies (order : d.Orderly ttl) (launched : .launched i f ∈ d.chronicle)
    (open_yet : d.chronicle.outcomeOf f = none) : d.Flies i f := by
  have told := order.callers i
  have same : ∀ {ticket : Ticket}, d.chronicle.Leads i ticket → ticket.flight = f := by
    intro ticket leads
    cases leads.only _ launched rfl
    rfl
  cases at_stage : d.stage? i with
  | none =>
    rw [at_stage] at told
    exact absurd rfl (told _ launched)
  | some stage =>
    rw [at_stage] at told
    cases stage with
    | entering deadline => exact absurd rfl (told _ launched)
    | attempting => exact .tries (.attempting at_stage (same told))
    | calling => exact .tries (.calling at_stage (same told))
    | fetching => exact .tries (.fetching at_stage (same told))
    | landing => exact .lands at_stage (same told)
    | waiting flight deadline =>
      have waits : d.chronicle.Waits i flight := told
      cases waits.only _ launched rfl
    | done outcome =>
      have led := (told : d.chronicle.Ended i outcome).led f launched
      rw [open_yet] at led
      cases led

theorem exists_flies (order : d.Orderly ttl) (progress : d.chronicle.InProgress f) :
    ∃ leader, d.Flies leader f := by
  obtain ⟨leader, launched⟩ := generationOf_ne_none_iff.mp progress.1
  exact ⟨leader, order.flies launched progress.2⟩

/-- A flight that somebody waits for started, so it is in progress until it ends. -/
theorem inProgress_of_waiting (order : d.Orderly ttl) {deadline : Option Float}
    (at_stage : d.stage? i = some (.waiting f deadline)) (open_yet : d.ending? f = none) :
    d.chronicle.InProgress f := by
  refine ⟨?_, (order.endings f).symm.trans open_yet⟩
  exact order.lawful.started_of_joined (order.waits at_stage).joined

theorem slot_ne_of_ended (order : d.Orderly ttl) {outcome : Except FaultId α}
    (ended : d.chronicle.outcomeOf f = some outcome) : d.cell.flight ≠ some f := by
  intro slot
  have progress := ((order.cell.slot f).mp slot).1
  rw [progress.2] at ended
  cases ended

end Desk.Orderly

/-- A caller who gets on leaves what is remembered as it is, unless he gets a value by it. -/
theorem Desk.Move.memo_of_moved {latch : Latch} {d d' : Desk α} (move : Move ttl latch d d')
    {i : Nat} (moved : d'.stage? i ≠ d.stage? i)
    (no_value : ∀ value, d'.stage? i ≠ some (.done (.ok value))) :
    d'.cell.memo = d.cell.memo ∧ d'.cell.generation = d.cell.generation := by
  cases move with
  | @touchDown j ticket outcome now at_stage =>
    have here : ∀ k, (d.touchDown j ticket now outcome).stage? k =
        if k = j then some (.done outcome) else d.stage? k :=
      stage?_setStage at_stage _
    by_cases his : i = j
    · subst his
      rw [here, if_pos rfl] at no_value
      cases outcome with
      | error fault => exact ⟨rfl, rfl⟩
      | ok value => exact absurd rfl (no_value value)
    · rw [here, if_neg his] at moved
      exact absurd rfl moved
  | _ => exact ⟨rfl, rfl⟩

/-- What a flight ended with was at hand before it landed. -/
theorem Desk.Move.outcomeOf {latch : Latch} {d d' : Desk α} (move : Move ttl latch d d')
    {f : FlightId} {outcome : Except FaultId α} (ended : d'.chronicle.outcomeOf f = some outcome) :
    d.chronicle.outcomeOf f = some outcome ∨
      ∃ i ticket, d.stage? i = some (.landing ticket outcome) ∧ ticket.flight = f := by
  cases move with
  | @touchDown i ticket own now at_stage =>
    have after : (d.touchDown i ticket now own).chronicle.outcomeOf f =
        if ticket.flight = f then some own else d.chronicle.outcomeOf f := rfl
    rw [after] at ended
    split at ended
    · rename_i same
      cases ended
      exact .inr ⟨i, ticket, at_stage, same⟩
    · exact .inl ended
  | _ => exact .inl ended

namespace Traffic

variable {t : Traffic α} {m : Manner} {i : Nat} {f : FlightId} {ticket : Ticket}
variable {outcome : Except FaultId α}

/-! ## Bringing a value

A leader has a value to land with only when his call of the fetch ended with it. -/

theorem landing_of_setStage {d : Desk α} {before after : Stage α} {j : Nat} {value : α}
    (at_stage : d.stage? i = some before) (other : after ≠ .landing ticket (.ok value))
    (lands : (d.setStage i after).stage? j = some (.landing ticket (.ok value))) :
    d.stage? j = some (.landing ticket (.ok value)) := by
  rw [Desk.stage?_setStage at_stage] at lands
  split at lands
  · exact absurd (Option.some.inj lands) other
  · exact lands

theorem landing_of_call {name : String} {timeout : Option Number} {j : Nat} {value : α}
    (lands : (t.call name timeout).stage? j = some (.landing ticket (.ok value))) :
    t.stage? j = some (.landing ticket (.ok value)) := by
  have newcomer : ∀ (t' : Traffic α) stage, t'.toDesk = t.toDesk →
      stage ≠ .landing ticket (.ok value) →
      (t'.atDesk (·.welcome name stage)).stage? j = some (.landing ticket (.ok value)) →
      t.stage? j = some (.landing ticket (.ok value)) := by
    intro t' stage same other lands
    have here := Desk.stage?_welcome t'.toDesk name stage j
    rw [same] at here
    change (t'.toDesk.welcome name stage).stage? j = _ at lands
    rw [same, here] at lands
    split at lands
    · exact absurd (Option.some.inj lands) other
    · exact lands
  unfold call at lands
  split at lands
  · exact newcomer _ _ rfl (by simp) lands
  · split at lands
    · exact newcomer _ _ rfl (by simp) lands
    · exact newcomer _ _ rfl (by simp) lands

theorem landing_of_go {j : Nat} {value : α}
    (lands : (t.go m i).stage? j = some (.landing ticket (.ok value))) :
    t.stage? j = some (.landing ticket (.ok value)) := by
  unfold go at lands
  split at lands
  · rename_i at_stage
    unfold enter at lands
    split at lands <;> exact landing_of_setStage (d := t.toDesk) at_stage (by simp) lands
  · rename_i at_stage
    unfold attempt at lands
    split at lands <;> exact landing_of_setStage (d := t.toDesk) at_stage (by simp) lands
  · rename_i at_stage
    exact landing_of_setStage (d := t.toDesk) at_stage (by simp) lands
  · rename_i at_stage
    exact landing_of_setStage (d := t.toDesk) at_stage (by simp) lands
  · rename_i at_stage
    unfold wake at lands
    split at lands
    · exact landing_of_setStage (d := t.toDesk) at_stage (by simp) lands
    · exact lands
  · exact lands
  · exact lands
  · exact lands

theorem landing_of_land {call j : Nat} {landing : Landing α} {value : α}
    (lands : (t.land m call landing).2.stage? j = some (.landing ticket (.ok value))) :
    t.stage? j = some (.landing ticket (.ok value)) ∨
      landing = .value value ∧
        ∃ count deadline, t.stage? j = some (.fetching call ticket count deadline) := by
  have failed : ∀ {leader own count deadline} (t' : Traffic α) fault, t'.toDesk = t.toDesk →
      t.stage? leader = some (.fetching call own count deadline) →
      (fetchFailed m t' leader own count deadline fault).stage? j =
        some (.landing ticket (.ok value)) →
      t.stage? j = some (.landing ticket (.ok value)) := by
    intro leader own count deadline t' fault same inside lands
    rcases toDesk_fetchFailed m t' leader own count deadline fault with again | ⟨held, lands_now⟩
    · rw [again, same] at lands
      exact landing_of_setStage inside (by simp) lands
    · rw [lands_now, same] at lands
      exact landing_of_setStage inside (by simp) lands
  unfold land at lands
  split at lands
  · exact .inl lands
  · rename_i leader own count deadline found
    have inside := stage?_of_leader? found
    cases landing with
    | value a =>
      change (t.toDesk.setStage leader (.landing own (.ok a))).stage? j = _ at lands
      rw [Desk.stage?_setStage inside] at lands
      split at lands
      · rename_i same
        cases lands
        exact .inr ⟨rfl, count, deadline, same ▸ inside⟩
      · exact .inl lands
    | fault plan => exact .inl (failed { t with log := (t.log.make plan).1 } _ rfl inside lands)
    | known fault => exact .inl (failed t fault rfl inside lands)

/-! ## The next step -/

/-- Whoever is between two attempts goes on to the next one, unless the latch is set. -/
theorem stage?_go_of_attempting {count : Nat} {deadline : Option Float}
    (at_stage : t.stage? i = some (.attempting ticket count deadline)) :
    (t.step m (.go i)).2.stage? i =
      match t.latch.fault with
      | some fault => some (.landing ticket (.error fault))
      | none => some (.calling ticket count deadline) := by
  have next : (t.step m (.go i)).2 = t.attempt i ticket count deadline := by
    simp [step, go, at_stage]
  rw [next, attempt]
  cases t.latch.fault <;> exact Desk.stage?_setStage_self at_stage _

theorem stage?_go_of_calling {count : Nat} {deadline : Option Float}
    (at_stage : t.stage? i = some (.calling ticket count deadline)) :
    (t.step m (.go i)).2.stage? i = some (.fetching t.calls ticket count deadline) := by
  rw [step_go_of_calling at_stage]
  exact Desk.stage?_callFetch at_stage ticket count deadline

theorem stage?_land_of_fetching (order : t.Orderly m.ttl) (accounts : t.Accounts)
    {call count : Nat} {deadline : Option Float}
    (at_stage : t.stage? i = some (.fetching call ticket count deadline)) (landing : Landing α) :
    (t.step m (.land call landing)).2.stage? i = some (.attempting ticket (count + 1) deadline) ∨
      ∃ outcome, (t.step m (.land call landing)).2.stage? i = some (.landing ticket outcome) := by
  have leader := leader?_of_fetching order accounts at_stage
  have failed : ∀ (t' : Traffic α) fault, t'.toDesk = t.toDesk →
      (fetchFailed m t' i ticket count deadline fault).stage? i =
          some (.attempting ticket (count + 1) deadline) ∨
        ∃ outcome, (fetchFailed m t' i ticket count deadline fault).stage? i =
          some (.landing ticket outcome) := by
    intro t' fault same
    rcases toDesk_fetchFailed m t' i ticket count deadline fault with again | ⟨held, lands_now⟩
    · rw [again, same]
      exact .inl (Desk.stage?_setStage_self at_stage _)
    · rw [lands_now, same]
      exact .inr ⟨.error held, Desk.stage?_setStage_self at_stage _⟩
  cases landing with
  | value a =>
    simp only [step, land, leader]
    exact .inr ⟨.ok a, Desk.stage?_setStage_self at_stage _⟩
  | fault plan =>
    simp only [step, land, leader]
    exact failed _ _ rfl
  | known fault =>
    simp only [step, land, leader]
    exact failed _ _ rfl

theorem step_go_of_landing (at_stage : t.stage? i = some (.landing ticket outcome)) :
    (t.step m (.go i)).2 = t.atDesk (·.touchDown i ticket t.clock outcome) := by
  simp [step, go, at_stage]

/-- What comes next for callers who are on the way, or who wait for a flight that ended. -/
structure Proceeds (m : Manner) (t : Traffic α) : Prop where
  attempting : ∀ i ticket count deadline,
    t.stage? i = some (.attempting ticket count deadline) →
      (t.step m (.go i)).2.stage? i =
        match t.latch.fault with
        | some fault => some (.landing ticket (.error fault))
        | none => some (.calling ticket count deadline)
  calling : ∀ i ticket count deadline, t.stage? i = some (.calling ticket count deadline) →
    (t.step m (.go i)).2.stage? i = some (.fetching t.calls ticket count deadline)
  fetching : ∀ i call ticket count deadline,
    t.stage? i = some (.fetching call ticket count deadline) → ∀ landing,
      (t.step m (.land call landing)).2.stage? i =
          some (.attempting ticket (count + 1) deadline) ∨
        ∃ outcome, (t.step m (.land call landing)).2.stage? i = some (.landing ticket outcome)
  landing : ∀ i ticket outcome, t.stage? i = some (.landing ticket outcome) →
    (t.step m (.go i)).2.stage? i = some (.done outcome) ∧
      (t.step m (.go i)).2.ending? ticket.flight = some outcome ∧
      (t.step m (.go i)).2.cell.flight ≠ some ticket.flight
  waiting : ∀ i f deadline outcome, t.stage? i = some (.waiting f deadline) →
    t.ending? f = some outcome → (t.step m (.go i)).2.stage? i = some (.done outcome)

theorem proceeds (order : t.Orderly m.ttl) (accounts : t.Accounts) : t.Proceeds m where
  attempting i ticket count deadline at_stage := stage?_go_of_attempting at_stage
  calling i ticket count deadline at_stage := stage?_go_of_calling at_stage
  fetching i call ticket count deadline at_stage landing :=
    stage?_land_of_fetching order accounts at_stage landing
  landing i ticket outcome at_stage := by
    rw [step_go_of_landing at_stage]
    refine ⟨Desk.stage?_setStage_self at_stage _, ?_, t.cell.flight_land_ne ticket t.clock _⟩
    exact (Desk.ending?_touchDown _ _ _ _ _ _).trans (if_pos rfl)
  waiting i f deadline outcome at_stage ended := stage?_go_of_waiting at_stage ended

/-! ## Leaving -/

/-- Each step of a call that ends on a fault leaves what is remembered as it is. -/
theorem memo_of_failed (m : Manner) (t : Traffic α) (event : Event α) (events : List (Event α))
    {fault : FaultId} (moved : (t.step m event).2.stage? i ≠ t.stage? i)
    (failed : ((t.step m event).2.run m events).stage? i = some (.done (.error fault))) :
    (t.step m event).2.cell.memo = t.cell.memo ∧
      (t.step m event).2.cell.generation = t.cell.generation := by
  have no_value : ∀ value, (t.step m event).2.stage? i ≠ some (.done (.ok value)) := by
    intro value ended
    rw [done_run m events ended] at failed
    cases failed
  by_cases forgets : event = .invalidate
  · subst forgets
    exact absurd rfl moved
  · exact (move_step m t forgets).memo_of_moved moved no_value

/-- A flight that ended with an outcome, and is not in the slot whatever happens. -/
structure Gone (m : Manner) (t : Traffic α) (f : FlightId) (outcome : Except FaultId α) :
    Prop where
  ended : t.ending? f = some outcome
  never : ∀ events, (t.run m events).cell.flight ≠ some f

theorem gone_of_done (order : t.Orderly m.ttl) (launched : .launched i f ∈ t.chronicle)
    (ended : t.stage? i = some (.done outcome)) : t.Gone m f outcome := by
  have told := order.callers i
  rw [ended] at told
  have landed := (told : t.chronicle.Ended i outcome).led f launched
  refine ⟨(order.endings f).trans landed, ?_⟩
  intro events
  have later := orderly_run m order events
  obtain ⟨recent, added, -⟩ := chronicle_run m t events
  have lawful := later.lawful
  rw [added] at lawful
  exact later.slot_ne_of_ended (added ▸ lawful.outcomeOf_append landed)

/-- What a caller who stops waiting leaves behind. -/
structure GivesUp (m : Manner) (t : Traffic α) (i : Nat) : Prop where
  told : ∃ fault, (t.step m (.expire i)).2.stage? i = some (.done (.error fault)) ∧
    (t.step m (.expire i)).2.log.get? fault = some { givenUp m.name 0 with }
  cell : (t.step m (.expire i)).2.cell = t.cell
  endings : (t.step m (.expire i)).2.endings = t.endings
  calls : (t.step m (.expire i)).2.calls = t.calls
  latch : (t.step m (.expire i)).2.latch = t.latch
  clock : (t.step m (.expire i)).2.clock = t.clock
  others : ∀ j, j ≠ i → (t.step m (.expire i)).2.stage? j = t.stage? j
  faults : ∀ k, k < t.log.size → (t.step m (.expire i)).2.log.get? k = t.log.get? k

theorem givesUp {deadline : Float} (at_stage : t.stage? i = some (.waiting f (some deadline))) :
    t.GivesUp m i := by
  have next : (t.step m (.expire i)).2 =
      (t.note { givenUp m.name 0 with }).1.atDesk
        (·.giveUp i (t.note { givenUp m.name 0 with }).2) := by
    simp [step, expire, at_stage]
  have told := Desk.stage?_setStage_self at_stage (.done (.error t.log.size))
  have others := Desk.stage?_setStage at_stage (.done (.error t.log.size))
  constructor <;> rw [next]
  case told => exact ⟨t.log.size, told, t.log.get?_add_self _⟩
  case others =>
    intro j other
    exact (others j).trans (if_neg other)
  case faults =>
    intro k known
    exact t.log.get?_add_of_lt _ known
  all_goals rfl

/-- Whatever the callers do, (1) the slot is empty or holds a current flight in progress whose
leader is on the way; (2) whoever waits for a flight that did not end waits for one in progress
whose leader is on the way; (3) a leader on the way is inside the loop of his attempts, unless he is
just about to land. To be inside that loop, said of every moment, is to be on the way with a flight:
where nobody stands between his last attempt and his landing, (1) and (2) tell of leaders inside the
loop itself. (4) callers on the way always have a next step, and whoever waits for a flight
that ended ends as it did; (5) each step of a call that ends on a fault leaves the remembered value,
its time and the generation as they are; (6) the flight of a leader who ended has ended as he did
and is never in the slot again; (7) whoever stops waiting leaves all else as it is. -/
theorem no_stuck_flight (m : Manner) (reach : t.Reachable m) :
    (∀ f, t.cell.flight = some f →
      t.chronicle.InProgress f ∧ t.chronicle.IsCurrent f ∧ ∃ leader, t.Flies leader f) ∧
    (∀ i f deadline, t.stage? i = some (.waiting f deadline) → t.ending? f = none →
      t.chronicle.InProgress f ∧ ∃ leader, t.Flies leader f) ∧
    ((∀ i ticket outcome, t.stage? i ≠ some (.landing ticket outcome)) →
      ∀ leader f, t.Flies leader f → t.Tries leader f) ∧
    t.Proceeds m ∧
    (∀ i event events fault, (t.step m event).2.stage? i ≠ t.stage? i →
      ((t.step m event).2.run m events).stage? i = some (.done (.error fault)) →
        (t.step m event).2.cell.memo = t.cell.memo ∧
          (t.step m event).2.cell.generation = t.cell.generation) ∧
    (∀ i f outcome, .launched i f ∈ t.chronicle → t.stage? i = some (.done outcome) →
      t.Gone m f outcome) ∧
    ∀ i f deadline, t.stage? i = some (.waiting f (some deadline)) → t.GivesUp m i := by
  have order := reach.orderly
  refine ⟨?_, ?_, ?_, proceeds order reach.accounts, ?_, ?_, ?_⟩
  · intro f slot
    obtain ⟨progress, current⟩ := (order.cell.slot f).mp slot
    exact ⟨progress, current, order.exists_flies progress⟩
  · intro i f deadline at_stage open_yet
    have progress := order.inProgress_of_waiting at_stage open_yet
    exact ⟨progress, order.exists_flies progress⟩
  · intro settled leader f flies
    cases flies with
    | tries tries => exact tries
    | lands landing => exact absurd landing (settled _ _ _)
  · intro i event events fault moved failed
    exact memo_of_failed m t event events moved failed
  · intro i f outcome launched ended
    exact gone_of_done order launched ended
  · intro i f deadline at_stage
    exact givesUp at_stage

/-- Two callers wait for a flight that the supplier was told to forget. -/
def twoWaiting : Traffic Nat :=
  (oneInside ⟨"session", some (.whole 60), 1⟩).run ⟨"session", some (.whole 60), 1⟩
    [.call "second" (some (.real 5)), .go 1, .call "third" none, .go 2, .invalidate]

/-- One of them stops waiting, and the leader is told to stop. -/
theorem no_stuck_flight_forgotten :
    let m : Manner := ⟨"session", some (.whole 60), 1⟩
    let stop : Event Nat := .land 0 (.fault (.simple { kind := .interrupt }))
    let later := (twoWaiting.step m stop).2.run m [.go 0]
    twoWaiting.Reachable m ∧ twoWaiting.cell.flight = none ∧
      twoWaiting.stage? 2 = some (.waiting 0 none) ∧ (∃ leader, twoWaiting.Flies leader 0) ∧
      twoWaiting.GivesUp m 1 ∧ later.stage? 0 = some (.done (.error 0)) ∧
      (twoWaiting.step m stop).2.cell.memo = twoWaiting.cell.memo ∧ later.Gone m 0 (.error 0) :=
  have reach : twoWaiting.Reachable ⟨"session", some (.whole 60), 1⟩ :=
    (reachable_oneInside _).run _
  have moved : some (Stage.landing ⟨0, 0⟩ (.error 0)) ≠
      (some (.fetching 0 ⟨0, 0⟩ 0 none) : Option (Stage Nat)) := by simp
  have launched : .launched 0 0 ∈ ([.landed 0 (.error 0) 0, .forgotten, .joined 2 0, .joined 1 0,
      .called 0 0, .launched 0 0] : Chronicle Nat) := by simp
  ⟨reach, rfl, rfl, ((no_stuck_flight _ reach).2.1 2 0 none rfl rfl).2,
    (no_stuck_flight _ reach).2.2.2.2.2.2 1 0 _ rfl, rfl,
    ((no_stuck_flight _ reach).2.2.2.2.1 0 (.land 0 (.fault (.simple { kind := .interrupt })))
      [.go 0] 0 moved rfl).1,
    (no_stuck_flight _ (reach.run [.land 0 (.fault (.simple { kind := .interrupt })),
      .go 0])).2.2.2.2.2.1 0 0 _ launched rfl⟩

end Traffic

end CloudSession
