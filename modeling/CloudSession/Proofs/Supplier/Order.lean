import CloudSession.Proofs.Supplier.Chronicle
import CloudSession.Supplier.Desk

/-! # Order at the desk

At every moment the desk agrees with its chronicle: the cell remembers the landing to remember and
has the current flight in its slot, and each caller is at the stage that the chronicle tells of.
Every operation of the desk keeps this, provided it is done to a caller at the right stage.
-/

namespace CloudSession

open Chronicle

variable {α : Type} {ttl : Option Number}

/-- A cell remembers what a chronicle says it should. -/
structure Cell.Remembers (cell : Cell α) (c : Chronicle α) : Prop where
  generation : cell.generation = c.generation
  numbered : ∀ f, c.generationOf f ≠ none → f < cell.launched
  memo : cell.memo = c.kept.map fun delivery => (delivery.value, delivery.time)
  slot : ∀ f, cell.flight = some f ↔ c.InProgress f ∧ c.IsCurrent f

namespace Chronicle

/-- Nothing is told of a caller. -/
def Silent (c : Chronicle α) (i : Nat) : Prop := ∀ h ∈ c, h.caller? ≠ some i

/-- A caller leads a flight in progress, and nothing else is told of him. -/
structure Leads (c : Chronicle α) (i : Nat) (ticket : Ticket) : Prop where
  launched : .launched i ticket.flight ∈ c
  started : c.generationOf ticket.flight = some ticket.generation
  open_yet : c.outcomeOf ticket.flight = none
  only : ∀ h ∈ c, h.caller? = some i → h = .launched i ticket.flight

/-- A caller waits for a flight, and nothing else is told of him. -/
structure Waits (c : Chronicle α) (i : Nat) (flight : FlightId) : Prop where
  joined : .joined i flight ∈ c
  only : ∀ h ∈ c, h.caller? = some i → h = .joined i flight

/-- A caller ended as the flight did that he led or waited for, if he did, and has his value from
some flight, if he has one. -/
structure Ended (c : Chronicle α) (i : Nat) (outcome : Except FaultId α) : Prop where
  led : ∀ f, .launched i f ∈ c → c.outcomeOf f = some outcome
  awaited : ∀ f, .joined i f ∈ c → .gaveUp i ∉ c → c.outcomeOf f = some outcome
  brought : ∀ value, outcome = .ok value → ∃ f, c.Brought i value f

/-- What a chronicle tells of a caller who is at a stage, or who never came. -/
def Tells (c : Chronicle α) (i : Nat) : Option (Stage α) → Prop
  | none | some (.entering _) => c.Silent i
  | some (.attempting ticket _ _) | some (.calling ticket _ _) | some (.fetching _ ticket _ _)
  | some (.landing ticket _) => c.Leads i ticket
  | some (.waiting flight _) => c.Waits i flight
  | some (.done outcome) => c.Ended i outcome

variable {c : Chronicle α} {h : Happening α} {i : Nat}

theorem tells_of_ticket {stage : Stage α} {ticket : Ticket} (holds : stage.ticket? = some ticket) :
    c.Tells i (some stage) ↔ c.Leads i ticket := by
  cases stage <;> simp_all [Stage.ticket?, Tells]

theorem Silent.cons (silent : c.Silent i) (other : h.caller? ≠ some i) : Silent (h :: c) i := by
  intro h' member
  rcases List.mem_cons.mp member with rfl | before
  · exact other
  · exact silent h' before

theorem Silent.only_cons (silent : c.Silent i) : ∀ h' ∈ h :: c, h'.caller? = some i → h' = h := by
  intro h' member his
  rcases List.mem_cons.mp member with rfl | before
  · rfl
  · exact absurd his (silent h' before)

/-- Whoever fails before anything is told of him ended in order. -/
theorem Silent.ended (silent : c.Silent i) (fault : FaultId) : c.Ended i (.error fault) where
  led f launched := absurd rfl (silent _ launched)
  awaited f joined := absurd rfl (silent _ joined)
  brought value same := by cases same

theorem only_cons {mine : Happening α} (only : ∀ h' ∈ c, h'.caller? = some i → h' = mine)
    (other : h.caller? ≠ some i) : ∀ h' ∈ h :: c, h'.caller? = some i → h' = mine := by
  intro h' member his
  rcases List.mem_cons.mp member with rfl | before
  · exact absurd his other
  · exact only h' before his

theorem Leads.cons {ticket : Ticket} (leads : c.Leads i ticket) (lawful : Lawful ttl (h :: c))
    (other : h.caller? ≠ some i) (open_yet : outcomeOf ticket.flight (h :: c) = none) :
    Leads (h :: c) i ticket where
  launched := List.mem_cons_of_mem h leads.launched
  started := lawful.generationOf_cons leads.started
  open_yet := open_yet
  only := only_cons leads.only other

theorem Leads.inProgress {ticket : Ticket} (leads : c.Leads i ticket) :
    c.InProgress ticket.flight :=
  ⟨generationOf_ne_none_of_mem leads.launched, leads.open_yet⟩

theorem Ended.cons {outcome : Except FaultId α} (ended : c.Ended i outcome)
    (lawful : Lawful ttl (h :: c)) (other : h.caller? ≠ some i) : Ended (h :: c) i outcome := by
  have before : ∀ {h'}, h' ∈ h :: c → h'.caller? = some i → h' ∈ c := by
    intro h' member his
    rcases List.mem_cons.mp member with rfl | before
    · exact absurd his other
    · exact before
  refine ⟨?_, ?_, ?_⟩
  · intro f launched
    exact lawful.outcomeOf_cons (ended.led f (before launched rfl))
  · intro f joined stayed
    have stayed_before : .gaveUp i ∉ c := fun gone => stayed (List.mem_cons_of_mem h gone)
    exact lawful.outcomeOf_cons (ended.awaited f (before joined rfl) stayed_before)
  · intro value same
    obtain ⟨f, brought⟩ := ended.brought value same
    exact ⟨f, brought.cons lawful⟩

/-- What happens to others changes nothing in what is told of a caller, unless his own flight
ends. -/
theorem Tells.cons {stage : Option (Stage α)} (told : c.Tells i stage)
    (lawful : Lawful ttl (h :: c)) (other : h.caller? ≠ some i)
    (open_yet : ∀ s ticket, stage = some s → s.ticket? = some ticket →
      outcomeOf ticket.flight (h :: c) = none) :
    Tells (h :: c) i stage := by
  cases stage with
  | none => exact Silent.cons told other
  | some s =>
    cases s with
    | entering deadline => exact Silent.cons told other
    | attempting ticket | calling ticket | fetching _ ticket | landing ticket =>
      exact Leads.cons told lawful other (open_yet _ ticket rfl rfl)
    | waiting flight deadline =>
      obtain ⟨joined, only⟩ : c.Waits i flight := told
      exact ⟨List.mem_cons_of_mem h joined, only_cons only other⟩
    | done outcome => exact Ended.cons told lawful other

end Chronicle

/-- The desk agrees with its chronicle. -/
structure Desk.Orderly (ttl : Option Number) (d : Desk α) : Prop where
  lawful : d.chronicle.Lawful ttl
  cell : d.cell.Remembers d.chronicle
  calls : d.calls = d.chronicle.calls
  endings : ∀ f, d.ending? f = d.chronicle.outcomeOf f
  callers : ∀ i, d.chronicle.Tells i (d.stage? i)

/-! ## Cells -/

namespace Cell.Remembers

variable {cell : Cell α} {c : Chronicle α}

theorem launch (remembers : cell.Remembers c) (lawful : c.Lawful ttl) (i : Nat)
    (free : cell.flight = none) :
    cell.launch.Remembers (.launched i cell.launched :: c) := by
  have new : c.outcomeOf cell.launched = none := by
    cases ended : c.outcomeOf cell.launched with
    | none => rfl
    | some outcome =>
      have started := lawful.started_of_outcome ended
      exact absurd (remembers.numbered _ started) (Nat.lt_irrefl _)
  refine ⟨remembers.generation, ?_, remembers.memo, ?_⟩
  · intro f started
    simp only [generationOf] at started
    split at started
    · rename_i same
      exact same ▸ Nat.lt_succ_self _
    · exact Nat.lt_succ_of_lt (remembers.numbered f started)
  · intro f
    by_cases same : cell.launched = f
    · subst same
      simp [Cell.launch, InProgress, IsCurrent, generationOf, outcomeOf, Chronicle.generation, new]
    · have before := remembers.slot f
      rw [free] at before
      simpa [Cell.launch, InProgress, IsCurrent, generationOf, outcomeOf, Chronicle.generation,
        same] using before

theorem land (remembers : cell.Remembers c) {i : Nat} {ticket : Ticket}
    (leads : c.Leads i ticket) (now : Float) (outcome : Except FaultId α) :
    (cell.land ticket now outcome.toOption).Remembers (.landed ticket.flight outcome now :: c) := by
  refine ⟨remembers.generation, remembers.numbered, ?_, ?_⟩
  · cases outcome with
    | error fault => exact remembers.memo
    | ok value =>
      simp only [Cell.land, Except.toOption, kept, leads.started, remembers.generation,
        Option.some.injEq]
      split
      · rfl
      · exact remembers.memo
  · intro f
    have before := remembers.slot f
    by_cases same : ticket.flight = f
    · subst same
      have landed : ¬ InProgress (.landed ticket.flight outcome now :: c) ticket.flight := by
        simp [InProgress, outcomeOf]
      exact iff_of_false (cell.flight_land_ne ticket now outcome.toOption) fun both => landed both.1
    · have rest : (cell.land ticket now outcome.toOption).flight = some f ↔
          cell.flight = some f := by
        simp only [Cell.land]
        split
        · rename_i own
          simp [own, same]
        · rfl
      rw [rest, before]
      simp [InProgress, IsCurrent, generationOf, outcomeOf, Chronicle.generation, same]

theorem invalidate (remembers : cell.Remembers c) :
    cell.invalidate.Remembers (.forgotten :: c) := by
  refine ⟨congrArg (· + 1) remembers.generation, remembers.numbered, rfl, ?_⟩
  intro f
  have older : ¬ IsCurrent (.forgotten :: c) f := by
    intro current
    exact absurd (generationOf_le (c := c) current) (Nat.not_succ_le_self _)
  simp [Cell.invalidate, older]

end Cell.Remembers

/-! ## Operations -/

namespace Desk.Orderly

variable {d : Desk α} {i : Nat} {before after : Stage α} {deadline : Option Float}

theorem leads (order : d.Orderly ttl) {ticket : Ticket} (at_stage : d.stage? i = some before)
    (holds : before.ticket? = some ticket) : d.chronicle.Leads i ticket := by
  have told := order.callers i
  rw [at_stage] at told
  exact (tells_of_ticket holds).mp told

/-- A caller who moves on must be told of anew, the others are as before. -/
theorem callers_setStage (order : d.Orderly ttl) (at_stage : d.stage? i = some before)
    (here : d.chronicle.Tells i (some after)) (j : Nat) :
    d.chronicle.Tells j ((d.setStage i after).stage? j) := by
  rw [stage?_setStage at_stage]
  split
  · rename_i same
    exact same ▸ here
  · exact order.callers j

/-- The same when something happens to him, as long as no flight of another ends by it. -/
theorem callers_record {h : Happening α} (order : d.Orderly ttl)
    (at_stage : d.stage? i = some before) (lawful : Lawful ttl (h :: d.chronicle))
    (mine : ∀ j, j ≠ i → h.caller? ≠ some j)
    (open_yet : ∀ j stage ticket, j ≠ i → d.stage? j = some stage → stage.ticket? = some ticket →
      outcomeOf ticket.flight (h :: d.chronicle) = none)
    (here : Tells (h :: d.chronicle) i (some after)) (j : Nat) :
    Tells (h :: d.chronicle) j ((d.setStage i after).stage? j) := by
  rw [stage?_setStage at_stage]
  split
  · rename_i same
    exact same ▸ here
  · rename_i other
    refine (order.callers j).cons lawful (mine j other) ?_
    intro stage ticket at_j holds
    exact open_yet j stage ticket other at_j holds

/-- The same when something happens to him alone. -/
theorem callers_told {h : Happening α} (order : d.Orderly ttl)
    (at_stage : d.stage? i = some before) (lawful : Lawful ttl (h :: d.chronicle))
    (his : h.caller? = some i)
    (quiet : ∀ f, outcomeOf f (h :: d.chronicle) = d.chronicle.outcomeOf f)
    (here : Tells (h :: d.chronicle) i (some after)) (j : Nat) :
    Tells (h :: d.chronicle) j ((d.setStage i after).stage? j) := by
  refine order.callers_record at_stage lawful ?_ ?_ here j
  · intro j other same
    exact other (Option.some.inj (same.symm.trans his))
  · intro j stage ticket _ at_j holds
    rw [quiet]
    exact (order.leads at_j holds).open_yet

theorem start : ({} : Desk α).Orderly ttl where
  lawful := trivial
  cell :=
    { generation := rfl
      numbered := fun f started => absurd rfl started
      memo := rfl
      slot := by simp [IsCurrent, generationOf] }
  calls := rfl
  endings _ := rfl
  callers i := by
    intro h member
    cases member

/-- Newcomers have been told of by nobody. -/
theorem welcome (order : d.Orderly ttl) (name : String)
    (newcomer : (∃ deadline, after = .entering deadline) ∨ ∃ fault, after = .done (.error fault)) :
    (d.welcome name after).Orderly ttl := by
  refine ⟨order.lawful, order.cell, order.calls, order.endings, ?_⟩
  intro j
  rw [stage?_welcome]
  split
  · rename_i last
    have silent : d.chronicle.Silent j := by
      have told := order.callers j
      rwa [last, stage?, List.getElem?_eq_none (Nat.le_refl _), ← last] at told
    rcases newcomer with ⟨deadline, rfl⟩ | ⟨fault, rfl⟩
    · exact silent
    · exact silent.ended fault
  · exact order.callers j

theorem silent (order : d.Orderly ttl) (at_stage : d.stage? i = some (.entering deadline)) :
    d.chronicle.Silent i := by
  have told := order.callers i
  rwa [at_stage] at told

theorem waits (order : d.Orderly ttl) {flight : FlightId}
    (at_stage : d.stage? i = some (.waiting flight deadline)) : d.chronicle.Waits i flight := by
  have told := order.callers i
  rwa [at_stage] at told

theorem refuse (order : d.Orderly ttl) (at_stage : d.stage? i = some (.entering deadline))
    (fault : FaultId) : (d.setStage i (.done (.error fault))).Orderly ttl :=
  ⟨order.lawful, order.cell, order.calls, order.endings,
    order.callers_setStage at_stage ((order.silent at_stage).ended fault)⟩

theorem serve (order : d.Orderly ttl) (at_stage : d.stage? i = some (.entering deadline))
    {value : α} {time now : Float} {seconds : Number} (memo : d.cell.memo = some (value, time))
    (known : ttl = some seconds) (fresh : Cell.isFresh seconds now time) :
    (d.serve i value now).Orderly ttl := by
  have silent := order.silent at_stage
  obtain ⟨delivery, toKeep, same⟩ : ∃ delivery, d.chronicle.kept = some delivery ∧
      (delivery.value, delivery.time) = (value, time) := by
    rw [order.cell.memo] at memo
    exact Option.map_eq_some_iff.mp memo
  cases same
  have lawful : Lawful ttl (.served i delivery.value now :: d.chronicle) :=
    ⟨.served known toKeep fresh, order.lawful⟩
  have ended : Ended (.served i delivery.value now :: d.chronicle) i (.ok delivery.value) := by
    refine ⟨?_, ?_, ?_⟩
    · intro f launched
      cases silent.only_cons _ launched rfl
    · intro f joined
      cases silent.only_cons _ joined rfl
    · rintro value ⟨⟩
      exact ⟨delivery.flight, .remembered [] d.chronicle now delivery.time rfl toKeep⟩
  exact ⟨lawful, ⟨order.cell.generation, order.cell.numbered, order.cell.memo, order.cell.slot⟩,
    order.calls, order.endings, order.callers_told at_stage lawful rfl (fun _ => rfl) ended⟩

theorem join (order : d.Orderly ttl) (at_stage : d.stage? i = some (.entering deadline))
    {flight : FlightId} (slot : d.cell.flight = some flight) :
    (d.join i flight deadline).Orderly ttl := by
  obtain ⟨progress, current⟩ := (order.cell.slot flight).mp slot
  have lawful : Lawful ttl (.joined i flight :: d.chronicle) :=
    ⟨.joined progress current, order.lawful⟩
  have waits : Waits (.joined i flight :: d.chronicle) i flight :=
    ⟨List.mem_cons_self, (order.silent at_stage).only_cons⟩
  exact ⟨lawful, ⟨order.cell.generation, order.cell.numbered, order.cell.memo, order.cell.slot⟩,
    order.calls, order.endings, order.callers_told at_stage lawful rfl (fun _ => rfl) waits⟩

/-- The next flight has not started. -/
theorem unstarted (order : d.Orderly ttl) : d.chronicle.generationOf d.cell.launched = none := by
  by_contra started
  exact Nat.lt_irrefl _ (order.cell.numbered _ started)

theorem launch (order : d.Orderly ttl) (at_stage : d.stage? i = some (.entering deadline))
    (free : d.cell.flight = none) : (d.launch i deadline).Orderly ttl := by
  have unstarted := order.unstarted
  have unended : d.chronicle.outcomeOf d.cell.launched = none := by
    by_contra ended
    obtain ⟨outcome, ended⟩ := Option.ne_none_iff_exists'.mp ended
    exact order.lawful.started_of_outcome ended unstarted
  have lawful : Lawful ttl (.launched i d.cell.launched :: d.chronicle) := by
    refine ⟨.launched unstarted ?_, order.lawful⟩
    intro f progress current
    have slot := (order.cell.slot f).mpr ⟨progress, current⟩
    rw [free] at slot
    cases slot
  have leads : Leads (.launched i d.cell.launched :: d.chronicle) i d.cell.ticket :=
    { launched := List.mem_cons_self
      started := by simp [generationOf, Cell.ticket, order.cell.generation]
      open_yet := unended
      only := (order.silent at_stage).only_cons }
  exact ⟨lawful, order.cell.launch order.lawful i free, order.calls, order.endings,
    order.callers_told at_stage lawful rfl (fun _ => rfl) leads⟩

/-- A leader keeps his ticket on the way. -/
theorem carry (order : d.Orderly ttl) (at_stage : d.stage? i = some before) {ticket : Ticket}
    (held : before.ticket? = some ticket) (holds : after.ticket? = some ticket) :
    (d.setStage i after).Orderly ttl :=
  ⟨order.lawful, order.cell, order.calls, order.endings,
    order.callers_setStage at_stage ((tells_of_ticket holds).mpr (order.leads at_stage held))⟩

theorem callFetch (order : d.Orderly ttl) {ticket : Ticket} {count : Nat}
    (at_stage : d.stage? i = some (.calling ticket count deadline)) :
    (d.callFetch i ticket count deadline).Orderly ttl := by
  have leads := order.leads at_stage rfl
  have lawful : Lawful ttl (.called ticket.flight d.calls :: d.chronicle) :=
    ⟨.called leads.inProgress, order.lawful⟩
  have still : Leads (.called ticket.flight d.calls :: d.chronicle) i ticket :=
    leads.cons lawful (by simp [Happening.caller?]) leads.open_yet
  refine ⟨lawful, ⟨order.cell.generation, order.cell.numbered, order.cell.memo, order.cell.slot⟩,
    ?_, order.endings, order.callers_record at_stage lawful ?_ ?_ still⟩
  · exact (congrArg (· + 1) order.calls).trans (calls_called _ _ _).symm
  · intro j _
    simp [Happening.caller?]
  · intro j stage ticket' _ at_j holds
    exact (order.leads at_j holds).open_yet

theorem touchDown (order : d.Orderly ttl) {ticket : Ticket} {outcome : Except FaultId α}
    (at_stage : d.stage? i = some (.landing ticket outcome)) (now : Float) :
    (d.touchDown i ticket now outcome).Orderly ttl := by
  have leads := order.leads at_stage rfl
  have lawful : Lawful ttl (.landed ticket.flight outcome now :: d.chronicle) :=
    ⟨.landed leads.inProgress, order.lawful⟩
  have landed : outcomeOf ticket.flight (.landed ticket.flight outcome now :: d.chronicle) =
      some outcome := by
    simp [outcomeOf]
  have notOther : (Happening.landed ticket.flight outcome now).caller? ≠ some i := by
    simp [Happening.caller?]
  have ended : Ended (.landed ticket.flight outcome now :: d.chronicle) i outcome := by
    refine ⟨?_, ?_, ?_⟩
    · intro f launched
      cases only_cons leads.only notOther _ launched rfl
      exact landed
    · intro f joined
      cases only_cons leads.only notOther _ joined rfl
    · rintro value rfl
      exact ⟨ticket.flight, .led (List.mem_cons_of_mem _ leads.launched) landed⟩
  refine ⟨lawful, order.cell.land leads now outcome, order.calls, ?_,
    order.callers_record at_stage lawful ?_ ?_ ended⟩
  · intro f
    rw [ending?_touchDown, order.endings]
    rfl
  · intro j _
    simp [Happening.caller?]
  · intro j stage ticket' other at_j holds
    -- Two leaders never share a flight, so the flight that ends is not that of another.
    have leads' := order.leads at_j holds
    have apart : ticket.flight ≠ ticket'.flight := by
      intro same
      have launched := leads.launched
      rw [same] at launched
      exact other (order.lawful.launcher_unique leads'.launched launched)
    simpa [outcomeOf, apart] using leads'.open_yet

theorem wake (order : d.Orderly ttl) {flight : FlightId} {outcome : Except FaultId α}
    (at_stage : d.stage? i = some (.waiting flight deadline))
    (known : d.ending? flight = some outcome) : (d.setStage i (.done outcome)).Orderly ttl := by
  have waits := order.waits at_stage
  have landed : d.chronicle.outcomeOf flight = some outcome := by
    rw [← order.endings, known]
  have ended : d.chronicle.Ended i outcome := by
    refine ⟨?_, ?_, ?_⟩
    · intro f launched
      cases waits.only _ launched rfl
    · intro f joined _
      cases waits.only _ joined rfl
      exact landed
    · rintro value rfl
      exact ⟨flight, .awaited waits.joined landed⟩
  exact ⟨order.lawful, order.cell, order.calls, order.endings,
    order.callers_setStage at_stage ended⟩

theorem giveUp (order : d.Orderly ttl) {flight : FlightId}
    (at_stage : d.stage? i = some (.waiting flight deadline)) (fault : FaultId) :
    (d.giveUp i fault).Orderly ttl := by
  have waits := order.waits at_stage
  have lawful : Lawful ttl (.gaveUp i :: d.chronicle) := ⟨.gaveUp, order.lawful⟩
  have ended : Ended (.gaveUp i :: d.chronicle) i (.error fault) := by
    refine ⟨?_, ?_, ?_⟩
    · intro f launched
      rcases List.mem_cons.mp launched with impossible | launched
      · cases impossible
      · cases waits.only _ launched rfl
    · intro f _ stayed
      exact absurd List.mem_cons_self stayed
    · rintro value ⟨⟩
  exact ⟨lawful, ⟨order.cell.generation, order.cell.numbered, order.cell.memo, order.cell.slot⟩,
    order.calls, order.endings, order.callers_told at_stage lawful rfl (fun _ => rfl) ended⟩

theorem forget (order : d.Orderly ttl) : d.forget.Orderly ttl := by
  have lawful : Lawful ttl (.forgotten :: d.chronicle) := ⟨.forgotten, order.lawful⟩
  refine ⟨lawful, order.cell.invalidate, order.calls, order.endings, ?_⟩
  intro j
  refine (order.callers j).cons lawful (by simp [Happening.caller?]) ?_
  intro stage ticket at_j holds
  exact (order.leads at_j holds).open_yet

end Desk.Orderly

end CloudSession
