import CloudSession.Proofs.Supplier.Step

/-! # One flight at a time

Within a generation one flight at most is in progress, whoever waits for a flight ends as its
leader does, and callers who come while a current flight is in progress cause no other flight and
no call of the fetch.
-/

namespace CloudSession

open Chronicle

variable {α : Type} {ttl : Option Number}

namespace Chronicle

variable {c : Chronicle α} {stage : Option (Stage α)} {i : Nat} {f : FlightId}
variable {outcome : Except FaultId α}

/-- The leader of a flight that ended has ended as it did. -/
theorem Tells.done_of_launched (told : c.Tells i stage) (launched : .launched i f ∈ c)
    (ended : c.outcomeOf f = some outcome) : stage = some (.done outcome) := by
  have leading : ∀ {ticket : Ticket}, ¬ c.Leads i ticket := by
    intro ticket leads
    cases leads.only _ launched rfl
    have open_yet := leads.open_yet
    rw [ended] at open_yet
    cases open_yet
  cases stage with
  | none => exact absurd rfl (told _ launched)
  | some stage =>
    cases stage with
    | entering deadline => exact absurd rfl (told _ launched)
    | attempting | calling | fetching | landing => exact absurd told leading
    | waiting flight deadline =>
      have waits : c.Waits i flight := told
      cases waits.only _ launched rfl
    | done own =>
      have led := (told : c.Ended i own).led f launched
      rw [ended] at led
      cases led
      rfl

/-- Whoever joined a flight and did not give up waits for it still, or ended as it did. -/
theorem Tells.of_joined (told : c.Tells i stage) (joined : .joined i f ∈ c)
    (stayed : .gaveUp i ∉ c) :
    (∃ deadline, stage = some (.waiting f deadline)) ∨
      ∃ outcome, stage = some (.done outcome) ∧ c.outcomeOf f = some outcome := by
  cases stage with
  | none => exact absurd rfl (told _ joined)
  | some stage =>
    cases stage with
    | entering deadline => exact absurd rfl (told _ joined)
    | attempting ticket | calling ticket | fetching _ ticket | landing ticket =>
      have leads : c.Leads i ticket := told
      cases leads.only _ joined rfl
    | waiting flight deadline =>
      have waits : c.Waits i flight := told
      cases waits.only _ joined rfl
      exact .inl ⟨deadline, rfl⟩
    | done outcome => exact .inr ⟨outcome, rfl, (told : c.Ended i outcome).awaited f joined stayed⟩

end Chronicle

namespace Traffic

variable {t : Traffic α} {m : Manner}

/-- What a waiting caller and the leader of his flight make of it. -/
theorem done_of_joined (order : t.Orderly m.ttl) {i : Nat} {f : FlightId}
    (joined : .joined i f ∈ t.chronicle) (stayed : .gaveUp i ∉ t.chronicle) :
    ∃ leader, .launched leader f ∈ t.chronicle ∧
      (∀ outcome, t.stage? i = some (.done outcome) → t.stage? leader = some (.done outcome)) ∧
      ∀ outcome, t.stage? leader = some (.done outcome) →
        (t.step m (.go i)).2.stage? i = some (.done outcome) := by
  obtain ⟨leader, launched⟩ :=
    generationOf_ne_none_iff.mp (order.lawful.started_of_joined joined)
  have of_joined := (order.callers i).of_joined joined stayed
  refine ⟨leader, launched, ?_, ?_⟩
  · intro outcome ended
    rcases of_joined with ⟨deadline, waiting⟩ | ⟨_, done, landed⟩
    · rw [ended] at waiting
      cases waiting
    · rw [ended] at done
      cases done
      exact (order.callers leader).done_of_launched launched landed
  · intro outcome ended
    have told := order.callers leader
    rw [ended] at told
    have landed : t.chronicle.outcomeOf f = some outcome := Ended.led told f launched
    rcases of_joined with ⟨deadline, waiting⟩ | ⟨own, done, landed'⟩
    · exact stage?_go_of_waiting waiting ((order.endings f).trans landed)
    · rw [landed] at landed'
      cases landed'
      exact (move_step m t (by simp)).done done

theorem calls_run (order : t.Orderly m.ttl) (events : List (Event α)) {recent : Chronicle α}
    (added : (t.run m events).chronicle = recent ++ t.chronicle) :
    (t.run m events).calls = t.calls + recent.calls := by
  rw [(orderly_run m order events).calls, order.calls, added, Chronicle.calls, List.countP_append,
    Nat.add_comm]
  rfl

/-- Whatever the callers do, (1) flights in progress are of different generations, so that at most
one of them started since the supplier was last told to forget; (2) whoever joined a flight and did
not give up ends as its leader does, and can do so as soon as the leader has; (3) from any moment at
which a current flight is in progress, and as long as it is and nothing is forgotten, no other
flight starts, whoever waits waits for this one, and no call of the fetch is made but its own and
those of flights from before the last order to forget. -/
theorem single_flight (m : Manner) (reach : t.Reachable m) :
    (∀ f g, t.chronicle.InProgress f → t.chronicle.InProgress g →
      t.chronicle.generationOf f = t.chronicle.generationOf g ∨
        (t.chronicle.IsCurrent f ∧ t.chronicle.IsCurrent g) → f = g) ∧
    (∀ i f, .joined i f ∈ t.chronicle → .gaveUp i ∉ t.chronicle →
      ∃ leader, .launched leader f ∈ t.chronicle ∧
        (∀ outcome, t.stage? i = some (.done outcome) →
          t.stage? leader = some (.done outcome)) ∧
        ∀ outcome, t.stage? leader = some (.done outcome) →
          (t.step m (.go i)).2.stage? i = some (.done outcome)) ∧
    ∀ f events, t.chronicle.IsCurrent f → (t.run m events).chronicle.InProgress f →
      .invalidate ∉ events →
      ∃ recent, (t.run m events).chronicle = recent ++ t.chronicle ∧
        (t.run m events).calls = t.calls + recent.calls ∧
        (∀ i g, .launched i g ∉ recent) ∧ (∀ i g, .joined i g ∈ recent → g = f) ∧
        ∀ g call, .called g call ∈ recent →
          g = f ∨ ∃ n, n < t.chronicle.generation ∧ t.chronicle.generationOf g = some n := by
  have order := reach.orderly
  refine ⟨?_, ?_, ?_⟩
  · intro f g first second same
    refine order.lawful.inProgress_unique first second ?_
    rcases same with same | ⟨current, current'⟩
    · exact same
    · exact Eq.trans current (Eq.symm current')
  · intro i f joined stayed
    exact done_of_joined order joined stayed
  · intro f events current still keeps
    obtain ⟨recent, added, kept⟩ := chronicle_run m t events
    have lawful := (orderly_run m order events).lawful
    rw [added] at lawful still
    refine ⟨recent, added, calls_run order events added, ?_, ?_, ?_⟩
    · exact lawful.no_launch (kept keeps) current still
    · intro i g joined
      exact lawful.joined_only (kept keeps) current still joined
    · intro g call called
      exact lawful.called_only (kept keeps) current still called

/-- Two more callers come while the first one is inside, and one of them ends on his fault. -/
theorem single_flight_shared_fault :
    let m : Manner := ⟨"session", some (.whole 60), 1⟩
    let t := (oneInside m).run m [.call "second" none, .go 1, .call "third" none, .go 2]
    let later := t.run m [.land 0 (.fault (.simple { kind := .interrupt })), .go 0, .go 1]
    (oneInside m).chronicle.IsCurrent 0 ∧ t.chronicle.InProgress 0 ∧
      later.stage? 1 = some (.done (.error 0)) ∧
      (∃ recent, t.chronicle = recent ++ (oneInside m).chronicle ∧
        t.calls = (oneInside m).calls + recent.calls ∧ ∀ i g, .launched i g ∉ recent) ∧
      ∃ leader, .launched leader 0 ∈ later.chronicle ∧
        later.stage? leader = some (.done (.error 0)) :=
  have still : ((oneInside ⟨"session", some (.whole 60), 1⟩).run ⟨"session", some (.whole 60), 1⟩
      [.call "second" none, .go 1, .call "third" none, .go 2]).chronicle.InProgress 0 :=
    ⟨Option.some_ne_none 0, rfl⟩
  have stayed : .gaveUp 1 ∉ ([.landed 0 (.error 0) 0, .joined 2 0, .joined 1 0, .called 0 0,
      .launched 0 0] : Chronicle Nat) := by simp
  ⟨rfl, still, rfl,
    ((single_flight _ (reachable_oneInside _)).2.2 0 _ rfl still (by simp)).imp
      fun _ both => ⟨both.1, both.2.1, both.2.2.1⟩,
    ((single_flight _ (((reachable_oneInside _).run _).run _)).2.1 1 0
      (.tail _ (.tail _ (.head _))) (by exact stayed)).imp fun _ both => ⟨both.1, both.2.1 _ rfl⟩⟩

end Traffic

end CloudSession
