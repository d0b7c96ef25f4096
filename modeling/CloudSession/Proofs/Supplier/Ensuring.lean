import CloudSession.Proofs.Ensuring
import CloudSession.Proofs.Supplier.Alone

/-! # What a supplier ensures

A get is turned away, served, or it leads a flight: the cell takes note of the flight, the fetch is
called once or more often, and its end lands in the cell. What holds before the get is carried
through these.
-/

namespace CloudSession.Supplier

open Act

variable {σ α : Type} {s : Supplier σ α} {fetch : Act σ α} {P : World σ → Prop}
variable {M : Ticket → World σ → Prop} {Q : α → World σ → Prop} {E : World σ → Prop}

/-- The world in which a flight lands. -/
def landed (s : Supplier σ α) (ticket : Ticket) (value : Option α) (w : World σ) : World σ :=
  { w with own := s.cell.write ((s.cell.read w.own).land ticket w.clock value) w.own }

/-- What it takes of a get to ensure something: `P` holds before it, `M` while a flight of its own
is under way, `Q` behind a value and `E` behind a fault. -/
structure Ensures (s : Supplier σ α) (fetch : Act σ α) (P : World σ → Prop)
    (M : Ticket → World σ → Prop) (Q : α → World σ → Prop) (E : World σ → Prop) : Prop where
  turned : ∀ {w} log, P w → E { w with log := log }
  served : ∀ {w value}, P w → (s.cell.read w.own).arrive s.ttl w.clock = .served value → Q value w
  launch : ∀ {w}, P w → (s.cell.read w.own).arrive s.ttl w.clock = .leads →
    M (s.cell.read w.own).ticket { w with own := s.cell.write (s.cell.read w.own).launch w.own }
  fetch : ∀ ticket, Act.Ensures (fun w => M ticket w ∧ (s.latch.read w.own).fault = none) fetch
    (fun value w => Q value (s.landed ticket (some value) w)) (M ticket)
  latch : ∀ {ticket w} latch log, M ticket w →
    M ticket { w with log := log, own := s.latch.write latch w.own }
  failed : ∀ {ticket w}, M ticket w → E (s.landed ticket none w)

variable (ensures : s.Ensures fetch P M Q E)

include ensures

theorem Ensures.log {ticket : Ticket} {w : World σ} (log : FaultLog) (holds : M ticket w) :
    M ticket { w with log := log } := by
  have carried := ensures.latch (s.latch.read w.own) log holds
  rwa [s.latch.write_read] at carried

theorem Ensures.fetchOnce (ticket : Ticket) (deadline : Option Float) (count : Nat)
    {retry : Option (Act σ α)} (again : ∀ act, retry = some act → Act.Ensures (M ticket) act
      (fun value w => Q value (s.landed ticket (some value) w)) (M ticket)) :
    Act.Ensures (M ticket) (s.fetchOnce fetch deadline count retry)
      (fun value w => Q value (s.landed ticket (some value) w)) (M ticket) := by
  intro w start
  cases held : (s.latch.read w.own).fault with
  | some fault =>
    rw [Supplier.fetchOnce, play_bind_of_error (play_checkLatch_of_set held)]
    exact start
  | none =>
    have ended := ensures.fetch ticket w ⟨start, held⟩
    cases played : fetch.play w with
    | mk outcome w' =>
      rw [played] at ended
      cases outcome with
      | ok value =>
        rw [play_fetchOnce_of_fetched held played]
        exact ended
      | error i =>
        have failed : M ticket w' := ended
        rw [play_fetchOnce_of_failed held played]
        cases w'.log.verdict i with
        | handOn => exact failed
        | rejected j =>
          dsimp only
          rw [play_reject]
          exact ensures.latch _ _ failed
        | timedOut =>
          cases filtered : retry.filter fun _ => !isDue deadline w'.clock with
          | none => exact ensures.log (w := w') _ failed
          | some act => exact again act (Option.filter_eq_some_iff.mp filtered).1 w' failed

theorem Ensures.fetchWithin (ticket : Ticket) (deadline : Option Float) (left count : Nat) :
    Act.Ensures (M ticket) (s.fetchWithin fetch deadline left count)
      (fun value w => Q value (s.landed ticket (some value) w)) (M ticket) := by
  induction left generalizing count with
  | zero => exact ensures.fetchOnce ticket deadline count (by simp)
  | succ left ih =>
    apply ensures.fetchOnce
    rintro act ⟨⟩
    exact ih (count + 1)

theorem Ensures.lead {w : World σ} (start : P w)
    (leads : (s.cell.read w.own).arrive s.ttl w.clock = .leads) (deadline : Option Float) :
    Ended Q E ((s.lead fetch deadline).play w) := by
  have ended := ensures.fetchWithin (s.cell.read w.own).ticket deadline s.spare 0 _
    (ensures.launch start leads)
  rw [Supplier.lead, play_bind_of_ok (Slot.play_fetch _ w), play_bind_of_ok (Slot.play_store _ _ w)]
  cases played : (s.fetchWithin fetch deadline s.spare 0).play
      { w with own := s.cell.write (s.cell.read w.own).launch w.own } with
  | mk outcome w' =>
    rw [played] at ended
    rw [play_bind_of_ok (play_attempt_of played)]
    cases outcome with
    | ok value => exact ended
    | error i => exact ensures.failed ended

theorem Ensures.get (timeout : Option Number) : Act.Ensures P (s.get fetch timeout) Q E := by
  intro w start
  have turned : E w := ensures.turned w.log start
  cases held : (s.latch.read w.own).fault with
  | some fault =>
    rw [play_get_of_set held]
    exact turned
  | none =>
    rw [Supplier.get, play_bind_of_ok (play_checkLatch_of_unset held)]
    cases known : (Supplier.deadline timeout : Act σ (Option Float)).play w with
    | mk outcome w' =>
      cases outcome with
      | error i =>
        rw [play_bind_of_error known]
        obtain ⟨log, rfl⟩ := log_of_play_deadline known
        exact ensures.turned log start
      | ok deadline =>
        obtain rfl := own_of_play_deadline known
        have looked : s.cell.fetch.play w = (.ok (s.cell.read w.own), w) := rfl
        have timed : (Act.now : Act σ Float).play w = (.ok w.clock, w) := rfl
        rw [play_bind_of_ok known, play_bind_of_ok looked, play_bind_of_ok timed]
        cases arrived : (s.cell.read w.own).arrive s.ttl w.clock with
        | served value => exact ensures.served start arrived
        | joins flight => exact ensures.turned _ start
        | leads => exact ensures.lead start arrived deadline
        | unjudged => exact ensures.turned _ start

omit ensures

/-! ## What is remembered behind a get -/

/-- From one state to another a cell remembers nothing any more, or else what it did and was not
told to forget. -/
def Forgets (slot : Slot σ (Cell α)) (state state' : σ) : Prop :=
  (slot.read state').memo = none ∨ (slot.read state').memo = (slot.read state).memo ∧
    (slot.read state').generation = (slot.read state).generation

instance (slot : Slot σ (Cell α)) : IsPreorder σ (Forgets slot) where
  refl _ := .inr ⟨rfl, rfl⟩
  trans _ _ _ first second := by
    rcases second with none | ⟨memo, generation⟩
    · exact .inl none
    · exact first.imp (memo.trans ·) fun same => ⟨memo.trans same.1, generation.trans same.2⟩

/-- Where a fetch does nothing to the cell but have it forget, a get hands out what is remembered
behind it, if anything is. -/
theorem ensures_remembered
    (forgets : Keeps (Forgets s.cell) fetch) (timeout : Option Number) :
    Act.Ensures (fun _ => True) (s.get fetch timeout)
      (fun value w => ∀ value' landed, (s.cell.read w.own).memo = some (value', landed) →
        value' = value) (fun _ => True) := by
  -- While the flight is under way, only a cell that was told to forget is of another generation.
  have rule : s.Ensures fetch (fun _ => True)
      (fun ticket w => (s.cell.read w.own).memo = none ∨
        (s.cell.read w.own).generation = ticket.generation)
      (fun value w => ∀ value' landed, (s.cell.read w.own).memo = some (value', landed) →
        value' = value) (fun _ => True) := by
    refine ⟨fun _ _ => trivial, ?_, ?_, ?_, ?_, fun _ => trivial⟩
    · intro w value _ served value' landed remembered
      obtain ⟨_, _, _, held, _⟩ := Cell.arrive_eq_served_iff.mp served
      rw [remembered] at held
      exact congrArg Prod.fst (Option.some.inj held)
    · intro w _ _
      rw [Slot.read_write]
      exact .inr rfl
    · rintro ticket w ⟨start, -⟩
      have forgot := forgets w
      cases played : fetch.play w with
      | mk outcome w' =>
        rw [played] at forgot
        have still : (s.cell.read w'.own).memo = none ∨
            (s.cell.read w'.own).generation = ticket.generation := by
          rcases forgot with none | ⟨memo, generation⟩
          · exact .inl none
          · exact start.imp (memo.trans ·) (generation.trans ·)
        cases outcome with
        | error i => exact still
        | ok value =>
          intro value' landed remembered
          rw [Supplier.landed, Slot.read_write] at remembered
          rcases still with none | same
          · simp only [Cell.land, none] at remembered
            split at remembered <;> cases remembered
            rfl
          · simp only [Cell.land, same, if_true, Option.some.injEq, Prod.mk.injEq] at remembered
            exact remembered.1.symm
    · intro ticket w latch log holds
      rwa [s.cell_latch]
  exact rule.get timeout

/-! ## How old what is handed out may be -/

/-- A time that is now, or fewer seconds ago than there are in an interval. -/
def Recent (interval : Option Number) (now time : Float) : Prop :=
  time = now ∨ ∃ seconds, interval = some seconds ∧ Cell.isFresh seconds now time

/-- A get hands out a value of a recent time, where an invariant `I` says of what is remembered that
it is of the time it landed: `D value time` is what it takes of a value to be of a time. -/
theorem ensures_recent {I : σ → Prop} {D : α → Float → σ → Prop}
    (remembered : ∀ {state value time}, I state → (s.cell.read state).memo = some (value, time) →
      D value time state)
    (cell : ∀ {state} {cell : Cell α}, I state →
      (∀ value time, cell.memo = some (value, time) → D value time state) →
      I (s.cell.write cell state))
    (latch : ∀ {state} latch, I state → I (s.latch.write latch state))
    (carried : ∀ {state value time} cell, D value time state →
      D value time (s.cell.write cell state))
    (fetched : Act.Ensures (fun w => I w.own) fetch (fun value w => I w.own ∧ D value w.clock w.own)
      (fun w => I w.own))
    (timeout : Option Number) :
    Act.Ensures (fun w => I w.own) (s.get fetch timeout)
      (fun value w => I w.own ∧ ∃ time, D value time w.own ∧ Recent s.ttl w.clock time)
      (fun w => I w.own) := by
  have landing {ticket : Ticket} {w : World σ} {brought : Option α} (sound : I w.own)
      (own : ∀ value, brought = some value → D value w.clock w.own) :
      I (s.landed ticket brought w).own := by
    refine cell sound fun value time memo => ?_
    rcases Cell.memo_of_land memo with ⟨same, now⟩ | before
    · exact now ▸ own value same
    · exact remembered sound before
  have rule : s.Ensures fetch (fun w => I w.own) (fun _ w => I w.own)
      (fun value w => I w.own ∧ ∃ time, D value time w.own ∧ Recent s.ttl w.clock time)
      (fun w => I w.own) := by
    refine ⟨fun _ => id, ?_, ?_, ?_, fun told _ => latch told, ?_⟩
    · intro w value sound served
      obtain ⟨seconds, time, known, memo, fresh⟩ := Cell.arrive_eq_served_iff.mp served
      exact ⟨sound, time, remembered sound memo, .inr ⟨seconds, known, fresh⟩⟩
    · exact fun sound _ => cell sound fun value time => remembered sound
    · intro ticket
      refine fetched.mono (fun _ => And.left) ?_ fun _ => id
      rintro value w ⟨sound, dated⟩
      refine ⟨landing sound ?_, w.clock, carried _ dated, .inl rfl⟩
      rintro _ ⟨⟩
      exact dated
    · exact fun sound => landing sound (by rintro _ ⟨⟩)
  exact rule.get timeout

/-! ## What is under way behind a get -/

/-- From one state to another the flight under way is the same, or there is none any more. -/
def Settles (slot : Slot σ (Cell α)) (state state' : σ) : Prop :=
  (slot.read state').flight = none ∨ (slot.read state').flight = (slot.read state).flight

instance (slot : Slot σ (Cell α)) : IsPreorder σ (Settles slot) where
  refl _ := .inr rfl
  trans _ _ _ first second := by
    rcases second with none | same
    · exact .inl none
    · exact first.imp same.trans same.trans

/-- The flight of a get is over when the get is, if its fetch starts no other one. -/
theorem settles_get (settles : Keeps (Settles s.cell) fetch) (timeout : Option Number) :
    Keeps (Settles s.cell) (s.get fetch timeout) := by
  intro start
  -- While the flight is under way, there is no other one.
  have rule : s.Ensures fetch (fun w => Settles s.cell start.own w.own)
      (fun ticket w => (s.cell.read w.own).flight = none ∨
        (s.cell.read w.own).flight = some ticket.flight)
      (fun _ w => Settles s.cell start.own w.own) (fun w => Settles s.cell start.own w.own) := by
    have gone {ticket : Ticket} {w : World σ} (value : Option α)
        (own : (s.cell.read w.own).flight = none ∨
          (s.cell.read w.own).flight = some ticket.flight) :
        Settles s.cell start.own (s.landed ticket value w).own := by
      left
      rw [landed, Slot.read_write]
      rcases own with own | own <;> simp [Cell.land, own]
    refine ⟨fun _ => id, fun settled _ => settled, ?_, ?_, ?_, gone none⟩
    · intro w _ _
      rw [Slot.read_write]
      exact .inr rfl
    · rintro ticket w ⟨own, -⟩
      have settled := settles w
      have still : (s.cell.read (fetch.play w).2.own).flight = none ∨
          (s.cell.read (fetch.play w).2.own).flight = some ticket.flight := by
        rcases settled with none | same
        · exact .inl none
        · exact own.imp same.trans same.trans
      cases played : fetch.play w with
      | mk outcome w' =>
        rw [played] at still
        cases outcome with
        | error i => exact still
        | ok value => exact gone (some value) still
    · intro ticket w latch log own
      rwa [s.cell_latch]
  exact (rule.get timeout).leads (fun _ _ => id) (fun _ => id) start (refl_of _ start.own)

end CloudSession.Supplier
