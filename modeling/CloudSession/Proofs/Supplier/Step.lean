import CloudSession.Proofs.Supplier.Order
import CloudSession.Supplier.Traffic

/-! # Steps of a run

What one event can do to the desk, said once: at most one caller moves on, and at most one thing
is entered in the chronicle. That the desk stays in order, that the past stays as it was and that
whoever ended has ended follows by looking at these moves alone.
-/

namespace CloudSession

open Chronicle

variable {α : Type} {ttl : Option Number}

/-- At which stage somebody can come: the latch turns everybody away once it is set. -/
inductive Latch.Welcomes (latch : Latch) : Stage α → Prop where
  | entering {deadline : Option Float} : latch.fault = none → Welcomes latch (.entering deadline)
  | failing {fault : FaultId} : latch.fault = none → Welcomes latch (.done (.error fault))
  | latched {fault : FaultId} : latch.fault = some fault → Welcomes latch (.done (.error fault))

/-- What an event other than an order to forget can do to a desk, given the latch before it. -/
inductive Desk.Move (ttl : Option Number) (latch : Latch) (d : Desk α) : Desk α → Prop where
  | rest : Move ttl latch d d
  | welcome {stage : Stage α} (name : String) :
    latch.Welcomes stage → Move ttl latch d (d.welcome name stage)
  | refuse {i : Nat} {deadline : Option Float} (fault : FaultId) :
    d.stage? i = some (.entering deadline) → Move ttl latch d (d.setStage i (.done (.error fault)))
  | serve {i : Nat} {deadline : Option Float} {value : α} {time now : Float} {seconds : Number} :
    d.stage? i = some (.entering deadline) → d.cell.memo = some (value, time) →
    ttl = some seconds → Cell.isFresh seconds now time → Move ttl latch d (d.serve i value now)
  | join {i : Nat} {deadline : Option Float} {flight : FlightId} :
    d.stage? i = some (.entering deadline) → d.cell.flight = some flight →
    Move ttl latch d (d.join i flight deadline)
  | launch {i : Nat} {deadline : Option Float} :
    d.stage? i = some (.entering deadline) → d.cell.flight = none →
    Move ttl latch d (d.launch i deadline)
  | turnBack {i : Nat} {ticket : Ticket} {count : Nat} {deadline : Option Float} {fault : FaultId} :
    latch.fault = some fault → d.stage? i = some (.attempting ticket count deadline) →
    Move ttl latch d (d.setStage i (.landing ticket (.error fault)))
  | passLatch {i : Nat} {ticket : Ticket} {count : Nat} {deadline : Option Float} :
    latch.fault = none → d.stage? i = some (.attempting ticket count deadline) →
    Move ttl latch d (d.setStage i (.calling ticket count deadline))
  | callFetch {i : Nat} {ticket : Ticket} {count : Nat} {deadline : Option Float} :
    d.stage? i = some (.calling ticket count deadline) →
    Move ttl latch d (d.callFetch i ticket count deadline)
  | retry {i call : Nat} {ticket : Ticket} {count : Nat} {deadline : Option Float} :
    d.stage? i = some (.fetching call ticket count deadline) →
    Move ttl latch d (d.setStage i (.attempting ticket (count + 1) deadline))
  | finish {i call : Nat} {ticket : Ticket} {count : Nat} {deadline : Option Float}
    (outcome : Except FaultId α) : d.stage? i = some (.fetching call ticket count deadline) →
    Move ttl latch d (d.setStage i (.landing ticket outcome))
  | touchDown {i : Nat} {ticket : Ticket} {outcome : Except FaultId α} (now : Float) :
    d.stage? i = some (.landing ticket outcome) →
    Move ttl latch d (d.touchDown i ticket now outcome)
  | wake {i : Nat} {deadline : Option Float} {flight : FlightId} {outcome : Except FaultId α} :
    d.stage? i = some (.waiting flight deadline) → d.ending? flight = some outcome →
    Move ttl latch d (d.setStage i (.done outcome))
  | giveUp {i : Nat} {deadline : Option Float} {flight : FlightId} (fault : FaultId) :
    d.stage? i = some (.waiting flight deadline) → Move ttl latch d (d.giveUp i fault)

namespace Desk.Move

variable {latch : Latch} {d d' : Desk α}

theorem orderly (move : Move ttl latch d d') (order : d.Orderly ttl) : d'.Orderly ttl := by
  cases move with
  | rest => exact order
  | welcome name newcomer =>
    cases newcomer with
    | entering => exact order.welcome name (.inl ⟨_, rfl⟩)
    | failing | latched => exact order.welcome name (.inr ⟨_, rfl⟩)
  | refuse fault at_stage => exact order.refuse at_stage fault
  | serve at_stage memo known fresh => exact order.serve at_stage memo known fresh
  | join at_stage slot => exact order.join at_stage slot
  | launch at_stage free => exact order.launch at_stage free
  | turnBack _ at_stage | passLatch _ at_stage | retry at_stage | finish _ at_stage =>
    exact order.carry at_stage rfl rfl
  | callFetch at_stage => exact order.callFetch at_stage
  | touchDown now at_stage => exact order.touchDown at_stage now
  | wake at_stage landed => exact order.wake at_stage landed
  | giveUp fault at_stage => exact order.giveUp at_stage fault

/-- The past stays as it was, and nothing is forgotten. -/
theorem chronicle (move : Move ttl latch d d') :
    ∃ recent, d'.chronicle = recent ++ d.chronicle ∧ .forgotten ∉ recent := by
  cases move with
  | rest | welcome | refuse | turnBack | passLatch | retry | finish | wake =>
    exact ⟨[], rfl, by simp⟩
  | serve | join | launch | callFetch | touchDown | giveUp => exact ⟨[_], rfl, by simp⟩

/-- Nobody who came is struck off the list. -/
theorem length_callers (move : Move ttl latch d d') : d.callers.length ≤ d'.callers.length := by
  cases move with
  | rest => exact Nat.le_refl _
  | welcome => simp [Desk.welcome]
  | refuse | turnBack | passLatch | retry | finish | wake => simp
  | serve | join | launch | callFetch | touchDown | giveUp =>
    simp [Desk.serve, Desk.join, Desk.launch, Desk.callFetch, Desk.touchDown, Desk.giveUp,
      Desk.record, Desk.setStage]

/-- Whoever ended has ended. -/
theorem done (move : Move ttl latch d d') {i : Nat} {outcome : Except FaultId α}
    (ended : d.stage? i = some (.done outcome)) : d'.stage? i = some (.done outcome) := by
  have stays : ∀ {j : Nat} {before : Stage α} (after : Stage α), d.stage? j = some before →
      (∀ o, before ≠ .done o) → (d.setStage j after).stage? i = some (.done outcome) := by
    intro j before after at_stage active
    have other : i ≠ j := by
      rintro rfl
      rw [at_stage] at ended
      exact active outcome (Option.some.inj ended)
    rw [stage?_setStage at_stage, if_neg other, ended]
  cases move with
  | rest => exact ended
  | welcome name =>
    rw [stage?_welcome, if_neg (Nat.ne_of_lt (lt_of_stage? ended)), ended]
  | refuse _ at_stage | serve at_stage | join at_stage | launch at_stage | turnBack _ at_stage
  | passLatch _ at_stage | callFetch at_stage | retry at_stage | finish _ at_stage
  | touchDown _ at_stage | wake at_stage | giveUp _ at_stage =>
    exact stays _ at_stage (by simp)

end Desk.Move

/-- What a later desk has of an earlier one. -/
structure Desk.Precedes (d d' : Desk α) : Prop where
  chronicle : ∃ recent, d'.chronicle = recent ++ d.chronicle
  callers : d.callers.length ≤ d'.callers.length
  done : ∀ i outcome, d.stage? i = some (.done outcome) → d'.stage? i = some (.done outcome)

namespace Desk.Precedes

variable {d d' d'' : Desk α}

theorem refl (d : Desk α) : d.Precedes d := ⟨⟨[], rfl⟩, Nat.le_refl _, fun _ _ ended => ended⟩

theorem trans (first : d.Precedes d') (second : d'.Precedes d'') : d.Precedes d'' where
  chronicle := by
    obtain ⟨earlier, added⟩ := first.chronicle
    obtain ⟨later, added'⟩ := second.chronicle
    exact ⟨later ++ earlier, by rw [added', added, List.append_assoc]⟩
  callers := Nat.le_trans first.callers second.callers
  done i outcome ended := second.done i outcome (first.done i outcome ended)

theorem forget (d : Desk α) : d.Precedes d.forget :=
  ⟨⟨[.forgotten], rfl⟩, Nat.le_refl _, fun _ _ ended => ended⟩

theorem of_move {latch : Latch} (move : Move ttl latch d d') : d.Precedes d' := by
  obtain ⟨recent, added, -⟩ := move.chronicle
  exact ⟨⟨recent, added⟩, move.length_callers, fun _ _ ended => move.done ended⟩

/-- What happened stays on record. -/
theorem mem {h : Happening α} (precedes : d.Precedes d') (happened : h ∈ d.chronicle) :
    h ∈ d'.chronicle := by
  obtain ⟨recent, added⟩ := precedes.chronicle
  exact added ▸ List.mem_append_right recent happened

end Desk.Precedes

namespace Traffic

variable {t : Traffic α} {m : Manner} {i : Nat}

theorem move_call (t : Traffic α) (name : String) (timeout : Option Number) :
    Desk.Move m.ttl t.latch t.toDesk (t.call name timeout).toDesk := by
  unfold call
  split
  · exact .welcome name (.latched ‹_›)
  · split
    · exact .welcome name (.entering ‹_›)
    · exact .welcome name (.failing ‹_›)

theorem move_enter {deadline : Option Float} (at_stage : t.stage? i = some (.entering deadline)) :
    Desk.Move m.ttl t.latch t.toDesk (t.enter m i deadline).toDesk := by
  unfold enter
  split
  · rename_i value served
    obtain ⟨seconds, landed, known, memo, fresh⟩ := Cell.arrive_eq_served_iff.mp served
    exact .serve at_stage memo known fresh
  · rename_i flight joins
    exact .join at_stage (Cell.flight_of_arrive_joins joins)
  · rename_i leads
    exact .launch at_stage (Cell.flight_of_arrive_leads leads)
  · exact .refuse _ at_stage

theorem move_attempt {ticket : Ticket} {count : Nat} {deadline : Option Float}
    (at_stage : t.stage? i = some (.attempting ticket count deadline)) :
    Desk.Move m.ttl t.latch t.toDesk (t.attempt i ticket count deadline).toDesk := by
  unfold attempt
  split
  · exact .turnBack ‹_› at_stage
  · exact .passLatch ‹_› at_stage

/-- However an attempt fails, the next one follows or the leader is to land on a fault. -/
theorem toDesk_fetchFailed (m : Manner) (t : Traffic α) (i : Nat) (ticket : Ticket) (count : Nat)
    (deadline : Option Float) (fault : FaultId) :
    (fetchFailed m t i ticket count deadline fault).toDesk =
        t.toDesk.setStage i (.attempting ticket (count + 1) deadline) ∨
      ∃ held, (fetchFailed m t i ticket count deadline fault).toDesk =
        t.toDesk.setStage i (.landing ticket (.error held)) := by
  unfold fetchFailed
  split
  · exact .inr ⟨fault, rfl⟩
  · exact .inr ⟨_, rfl⟩
  · split
    · exact .inl rfl
    · exact .inr ⟨_, rfl⟩

theorem move_fetchFailed {call : Nat} {ticket : Ticket} {count : Nat} {deadline : Option Float}
    (at_stage : t.stage? i = some (.fetching call ticket count deadline)) (fault : FaultId) :
    Desk.Move m.ttl t.latch t.toDesk (fetchFailed m t i ticket count deadline fault).toDesk := by
  rcases toDesk_fetchFailed m t i ticket count deadline fault with again | ⟨held, lands_now⟩
  · rw [again]
    exact .retry at_stage
  · rw [lands_now]
    exact .finish _ at_stage

theorem move_wake {flight : FlightId} {deadline : Option Float}
    (at_stage : t.stage? i = some (.waiting flight deadline)) :
    Desk.Move m.ttl t.latch t.toDesk (t.wake i flight).toDesk := by
  unfold wake
  split
  · rename_i outcome landed
    exact .wake at_stage landed
  · exact .rest

theorem move_go (t : Traffic α) (i : Nat) : Desk.Move m.ttl t.latch t.toDesk (t.go m i).toDesk := by
  unfold go
  split
  · exact move_enter ‹_›
  · exact move_attempt ‹_›
  · exact .callFetch ‹_›
  · exact .touchDown t.clock ‹_›
  · exact move_wake ‹_›
  · exact .rest
  · exact .rest
  · exact .rest

theorem move_expire (t : Traffic α) (i : Nat) :
    Desk.Move m.ttl t.latch t.toDesk (t.expire m i).toDesk := by
  unfold expire
  split
  · exact .giveUp _ ‹_›
  · exact .rest

/-- The leader who is inside a call of the fetch is there. -/
theorem stage?_of_leader? {call : Nat} {ticket : Ticket} {count : Nat} {deadline : Option Float}
    (leader : t.leader? call = some (i, ticket, count, deadline)) :
    t.stage? i = some (.fetching call ticket count deadline) := by
  obtain ⟨⟨caller, j⟩, member, found⟩ := List.exists_of_findSome?_eq_some leader
  have here := List.mem_zipIdx_iff_getElem?.mp member
  dsimp only at found
  split at found
  · rename_i n ticket' count' deadline' inside
    split at found
    · rename_i same
      cases found
      simp [Desk.stage?, here, inside, same]
    · cases found
  · cases found

theorem move_land (t : Traffic α) (call : Nat) (landing : Landing α) :
    Desk.Move m.ttl t.latch t.toDesk (t.land m call landing).2.toDesk := by
  unfold land
  split
  · exact .rest
  · rename_i i ticket count deadline leader
    have at_stage := stage?_of_leader? leader
    cases landing with
    | value a => exact .finish _ at_stage
    | fault plan => exact move_fetchFailed (t := { t with log := (t.log.make plan).1 }) at_stage _
    | known fault => exact move_fetchFailed at_stage fault

/-- What a step can do to the desk. -/
theorem move_step (m : Manner) (t : Traffic α) {event : Event α} (other : event ≠ .invalidate) :
    Desk.Move m.ttl t.latch t.toDesk (t.step m event).2.toDesk := by
  cases event with
  | call name timeout => exact move_call t name timeout
  | go i => exact move_go t i
  | expire i => exact move_expire t i
  | land call landing => exact move_land t call landing
  | invalidate => exact absurd rfl other
  | pass | setClock | trySet | trySetKnown => exact .rest

/-- Whoever waits for a flight that ended ends as it did, as soon as he gets on. -/
theorem stage?_go_of_waiting {i : Nat} {f : FlightId} {deadline : Option Float}
    {outcome : Except FaultId α} (at_stage : t.stage? i = some (.waiting f deadline))
    (ended : t.ending? f = some outcome) :
    (t.step m (.go i)).2.stage? i = some (.done outcome) := by
  have woken : (t.step m (.go i)).2 = t.atDesk (·.setStage i (.done outcome)) := by
    simp [step, go, at_stage, wake, ended]
  rw [woken]
  exact (Desk.stage?_setStage at_stage _ i).trans (if_pos rfl)

/-- Whoever is between two attempts goes on to the next one, as long as the latch is not set. -/
theorem step_go_of_attempting {ticket : Ticket} {count : Nat} {deadline : Option Float}
    (at_stage : t.stage? i = some (.attempting ticket count deadline))
    (unset : t.latch.fault = none) :
    (t.step m (.go i)).2 = t.atDesk (·.setStage i (.calling ticket count deadline)) := by
  simp [step, go, at_stage, attempt, unset]

/-- Whoever is past the latch calls the fetch, whatever became of the latch meanwhile. -/
theorem step_go_of_calling {ticket : Ticket} {count : Nat} {deadline : Option Float}
    (at_stage : t.stage? i = some (.calling ticket count deadline)) :
    (t.step m (.go i)).2 = t.atDesk (·.callFetch i ticket count deadline) := by
  simp [step, go, at_stage]

/-- Only those who call add to the number of callers. -/
theorem length_callers_go (m : Manner) (t : Traffic α) (i : Nat) :
    (t.go m i).callers.length = t.callers.length := by
  unfold go
  split
  · unfold enter
    split <;> exact Desk.length_callers_setStage _ _ _
  · unfold attempt
    split <;> exact Desk.length_callers_setStage _ _ _
  · exact Desk.length_callers_setStage _ _ _
  · exact Desk.length_callers_setStage _ _ _
  · unfold wake
    split
    · exact Desk.length_callers_setStage _ _ _
    · rfl
  · rfl
  · rfl
  · rfl

theorem length_callers_land (m : Manner) (t : Traffic α) (call : Nat) (landing : Landing α) :
    (t.land m call landing).2.callers.length = t.callers.length := by
  have failed : ∀ (t' : Traffic α) i ticket count deadline fault,
      (fetchFailed m t' i ticket count deadline fault).callers.length = t'.callers.length := by
    intro t' i ticket count deadline fault
    rcases toDesk_fetchFailed m t' i ticket count deadline fault with again | ⟨held, lands_now⟩
    · rw [again]
      exact Desk.length_callers_setStage _ _ _
    · rw [lands_now]
      exact Desk.length_callers_setStage _ _ _
  unfold land
  split
  · rfl
  · cases landing with
    | value a => exact Desk.length_callers_setStage _ _ _
    | fault plan => exact failed { t with log := (t.log.make plan).1 } _ _ _ _ _
    | known fault => exact failed t _ _ _ _ _

theorem length_callers_call (t : Traffic α) (name : String) (timeout : Option Number) :
    (t.call name timeout).callers.length = t.callers.length + 1 := by
  unfold call
  split
  · exact List.length_append
  · split <;> exact List.length_append

/-! ## Runs -/

theorem run_append (m : Manner) (t : Traffic α) (first then_ : List (Event α)) :
    t.run m (first ++ then_) = (t.run m first).run m then_ :=
  List.foldl_append

theorem orderly_step (m : Manner) (order : t.Orderly m.ttl) (event : Event α) :
    (t.step m event).2.Orderly m.ttl := by
  cases event with
  | invalidate => exact order.forget
  | _ => exact (move_step m t (by simp)).orderly order

theorem orderly_run (m : Manner) (order : t.Orderly m.ttl) (events : List (Event α)) :
    (t.run m events).Orderly m.ttl := by
  induction events generalizing t with
  | nil => exact order
  | cons event events ih => exact ih (orderly_step m order event)

/-- A run only adds to the chronicle, and forgets only when it is told to. -/
theorem chronicle_run (m : Manner) (t : Traffic α) (events : List (Event α)) :
    ∃ recent, (t.run m events).chronicle = recent ++ t.chronicle ∧
      (.invalidate ∉ events → .forgotten ∉ recent) := by
  induction events generalizing t with
  | nil => exact ⟨[], rfl, by simp⟩
  | cons event events ih =>
    obtain ⟨later, added, keeps⟩ := ih (t.step m event).2
    obtain ⟨now, first, keeps_now⟩ : ∃ now, (t.step m event).2.chronicle = now ++ t.chronicle ∧
        (event ≠ .invalidate → .forgotten ∉ now) := by
      by_cases forgets : event = .invalidate
      · subst forgets
        exact ⟨[.forgotten], rfl, fun other => absurd rfl other⟩
      · obtain ⟨now, first, keeps_now⟩ := (move_step m t forgets).chronicle
        exact ⟨now, first, fun _ => keeps_now⟩
    refine ⟨later ++ now, ?_, ?_⟩
    · rw [List.append_assoc, ← first]
      exact added
    · intro kept
      obtain ⟨other, rest⟩ := List.ne_and_not_mem_of_not_mem_cons kept
      simp [keeps rest, keeps_now (Ne.symm other)]

/-- Whoever ended has ended. -/
theorem done_run (m : Manner) (events : List (Event α)) {outcome : Except FaultId α}
    (ended : t.stage? i = some (.done outcome)) :
    (t.run m events).stage? i = some (.done outcome) := by
  induction events generalizing t with
  | nil => exact ended
  | cons event events ih =>
    refine ih ?_
    cases event with
    | invalidate => exact ended
    | _ => exact (move_step m t (by simp)).done ended

/-- What can come of a supplier at which nothing happened yet, whatever its clock, its latch and
the faults met elsewhere are. -/
def Reachable (m : Manner) (t : Traffic α) : Prop :=
  ∃ clock log latch events,
    t = run m { clock := clock, log := log, latch := latch } events

theorem Reachable.orderly (reach : Reachable m t) : t.Orderly m.ttl := by
  obtain ⟨clock, log, latch, events, rfl⟩ := reach
  exact orderly_run m Desk.Orderly.start events

theorem Reachable.run (reach : Reachable m t) (events : List (Event α)) :
    Reachable m (t.run m events) := by
  obtain ⟨clock, log, latch, before, rfl⟩ := reach
  exact ⟨clock, log, latch, before ++ events, (run_append m _ before events).symm⟩

/-- One caller came and is inside the fetch. -/
def oneInside (m : Manner) : Traffic Nat :=
  run m { clock := 0 } [.call "first" none, .go 0, .go 0, .go 0]

theorem reachable_oneInside (m : Manner) : (oneInside m).Reachable m :=
  ⟨0, {}, {}, [.call "first" none, .go 0, .go 0, .go 0], rfl⟩

theorem oneInside_eq (m : Manner) : oneInside m =
    { cell := { flight := some 0, launched := 1 }
      callers := [⟨"first", .fetching 0 ⟨0, 0⟩ 0 none⟩]
      calls := 1
      chronicle := [.called 0 0, .launched 0 0]
      clock := 0 } := rfl

end Traffic

end CloudSession
