import CloudSession.Proofs.Supplier.Step
import CloudSession.Supplier.Airspace

/-! # The latch is final

Once a latch is set it holds the same fault for good, and every supplier under it falls silent:
whoever comes is turned away with that very fault, and nobody who looks at the latch calls the
fetch. Only a leader who had looked before the latch was set may still make the one call that was
to follow his look.
-/

namespace CloudSession

variable {α : Type} {ttl : Option Number} {fault : FaultId}

theorem Latch.fault_trySet_of_set {latch : Latch} (set : latch.fault = some fault) (i : FaultId) :
    (latch.trySet i).2.fault = some fault := by
  rw [fault_trySet, set, Option.getD_some]

/-! ## At one supplier -/

def Stage.isCalling : Stage α → Bool
  | .calling _ _ _ => true
  | _ => false

theorem countP_modify {β : Type} (p : β → Bool) (f : β → β) {b : β} {l : List β} {i : Nat}
    (here : l[i]? = some b) :
    (l.modify i f).countP p + (p b).toNat = l.countP p + (p (f b)).toNat := by
  have toNat : ∀ c, (p c).toNat = if p c = true then 1 else 0 := by
    intro c
    cases p c <;> rfl
  induction l generalizing i with
  | nil => simp at here
  | cons c l ih =>
    cases i with
    | zero =>
      obtain rfl : c = b := by simpa using here
      simp only [List.modify_zero_cons, List.countP_cons, toNat]
      omega
    | succ i =>
      have rest := ih (i := i) (by simpa using here)
      simp only [List.modify_succ_cons, List.countP_cons]
      omega

namespace Desk

/-- How many leaders are past the latch and about to call the fetch. -/
def poised (d : Desk α) : Nat := d.callers.countP (·.stage.isCalling)

theorem poised_setStage {d : Desk α} {i : Nat} {before : Stage α}
    (at_stage : d.stage? i = some before) (after : Stage α) :
    (d.setStage i after).poised + before.isCalling.toNat = d.poised + after.isCalling.toNat := by
  obtain ⟨caller, here, rfl⟩ := Option.map_eq_some_iff.mp at_stage
  exact countP_modify (·.stage.isCalling) (fun c => { c with stage := after }) here

/-- What a set latch leaves to happen at a desk. -/
structure Stilled (fault : FaultId) (before after : Desk α) : Prop where
  /-- No call is made but those that were about to be made, each of them once. -/
  calls : after.calls + after.poised = before.calls + before.poised
  /-- Nobody gets past the latch. -/
  poised : ∀ i ticket count deadline, after.stage? i = some (.calling ticket count deadline) →
    before.stage? i = some (.calling ticket count deadline)
  callers : before.callers.length ≤ after.callers.length
  /-- Whoever ended has ended. -/
  done : ∀ i outcome, before.stage? i = some (.done outcome) → after.stage? i = some (.done outcome)
  /-- Whoever came was turned away. -/
  newcomers : ∀ i stage, before.callers.length ≤ i → after.stage? i = some stage →
    stage = .done (.error fault)

namespace Stilled

variable {d d' d'' : Desk α} {i : Nat} {before after : Stage α}

/-- What is remembered of flights does not matter. -/
theorem of_same (callers : d'.callers = d.callers) (calls : d'.calls = d.calls) :
    d.Stilled fault d' where
  calls := by rw [calls, Desk.poised, callers, Desk.poised]
  poised i ticket count deadline there := by rwa [stage?, callers] at there
  callers := Nat.le_of_eq (by rw [callers])
  done i outcome ended := by rwa [stage?, callers]
  newcomers i stage beyond here := by
    rw [stage?, callers, ← stage?, stage?_eq_none beyond] at here
    cases here

theorem refl (d : Desk α) : d.Stilled fault d := .of_same rfl rfl

theorem trans (first : d.Stilled fault d') (second : d'.Stilled fault d'') :
    d.Stilled fault d'' where
  calls := second.calls.trans first.calls
  poised i ticket count deadline there :=
    first.poised i ticket count deadline (second.poised i ticket count deadline there)
  callers := Nat.le_trans first.callers second.callers
  done i outcome ended := second.done i outcome (first.done i outcome ended)
  newcomers i stage beyond here := by
    by_cases known : d'.callers.length ≤ i
    · exact second.newcomers i stage known here
    · obtain ⟨earlier, there⟩ : ∃ earlier, d'.stage? i = some earlier :=
        ⟨_, congrArg (Option.map _) (List.getElem?_eq_getElem (Nat.lt_of_not_le known))⟩
      obtain rfl := first.newcomers i earlier beyond there
      rw [second.done i _ there] at here
      cases here
      rfl

theorem record (still : d.Stilled fault d') (h : Happening α) :
    d.Stilled fault (d'.record h) :=
  ⟨still.calls, still.poised, still.callers, still.done, still.newcomers⟩

/-- Whoever gets on came before, and nobody gets past the latch by it. -/
theorem of_moved {d' : Desk α} (at_stage : d.stage? i = some before)
    (active : ∀ outcome, before ≠ .done outcome) (outside : after.isCalling = false)
    (callers : d'.callers = (d.setStage i after).callers)
    (calls : d'.calls = d.calls + before.isCalling.toNat) : d.Stilled fault d' where
  calls := by
    have counted := poised_setStage at_stage after
    rw [outside] at counted
    have same : d'.poised = (d.setStage i after).poised := by rw [Desk.poised, callers, Desk.poised]
    rw [calls, same, ← counted.trans (Nat.add_zero _)]
    omega
  poised j ticket count deadline there := by
    rw [stage?, callers, ← stage?, stage?_setStage at_stage] at there
    split at there
    · cases there
      cases outside
    · exact there
  callers := Nat.le_of_eq (by rw [callers, length_callers_setStage])
  done j outcome ended := by
    have other : j ≠ i := by
      rintro rfl
      rw [at_stage] at ended
      exact active outcome (Option.some.inj ended)
    rw [stage?, callers, ← stage?, stage?_setStage at_stage, if_neg other, ended]
  newcomers j stage beyond here := by
    have came := lt_of_stage? at_stage
    rw [stage?, callers, ← stage?, stage?_setStage at_stage, if_neg (by omega),
      stage?_eq_none beyond] at here
    cases here

theorem turnAway (d : Desk α) (name : String) :
    d.Stilled fault (d.welcome name (.done (.error fault))) where
  calls := by simp [Desk.poised, welcome, Stage.isCalling]
  poised i ticket count deadline there := by
    rw [stage?_welcome] at there
    split at there
    · cases there
    · exact there
  callers := by simp [welcome]
  done i outcome ended := by
    rw [stage?_welcome, if_neg (Nat.ne_of_lt (lt_of_stage? ended)), ended]
  newcomers i stage beyond here := by
    rw [stage?_welcome] at here
    split at here
    · cases here
      rfl
    · rw [stage?_eq_none beyond] at here
      cases here

end Stilled

end Desk

theorem Desk.Move.stilled {latch : Latch} {d d' : Desk α} (move : Move ttl latch d d')
    (set : latch.fault = some fault) : d.Stilled fault d' := by
  cases move with
  | rest => exact .refl d
  | welcome name newcomer =>
    cases newcomer with
    | entering unset | failing unset => simp [set] at unset
    | latched held =>
      rw [set] at held
      cases held
      exact .turnAway d name
  | passLatch unset => simp [set] at unset
  | refuse _ at_stage | serve at_stage | join at_stage | launch at_stage | turnBack _ at_stage
  | callFetch at_stage | retry at_stage | finish _ at_stage | touchDown _ at_stage
  | wake at_stage | giveUp _ at_stage =>
    exact .of_moved at_stage (by simp) rfl rfl rfl

namespace Traffic

variable {t : Traffic α} {m : Manner}

theorem stilled_step (m : Manner) (set : t.latch.fault = some fault) (event : Event α) :
    t.Stilled fault (t.step m event).2.toDesk := by
  cases event with
  | invalidate => exact .of_same rfl rfl
  | _ => exact (move_step m t (by simp)).stilled set

theorem latch_call (t : Traffic α) (name : String) (timeout : Option Number) :
    (t.call name timeout).latch = t.latch := by
  unfold call
  split
  · rfl
  · split <;> rfl

theorem latch_go (m : Manner) (t : Traffic α) (i : Nat) : (t.go m i).latch = t.latch := by
  unfold go
  split
  · unfold enter
    split <;> rfl
  · unfold attempt
    split <;> rfl
  · rfl
  · rfl
  · unfold wake
    split <;> rfl
  · rfl
  · rfl
  · rfl

theorem latch_expire (m : Manner) (t : Traffic α) (i : Nat) : (t.expire m i).latch = t.latch := by
  unfold expire
  split <;> rfl

/-- Only a rejection sets the latch, unless it is set. -/
theorem latch_fetchFailed (m : Manner) (t : Traffic α) (i : Nat) (ticket : Ticket) (count : Nat)
    (deadline : Option Float) (met : FaultId) :
    (fetchFailed m t i ticket count deadline met).latch = t.latch ∨
      ∃ rejection, (fetchFailed m t i ticket count deadline met).latch =
        (t.latch.trySet rejection).2 := by
  unfold fetchFailed
  split
  · exact .inl rfl
  · exact .inr ⟨_, rfl⟩
  · split <;> exact .inl rfl

theorem latch_land (m : Manner) (t : Traffic α) (n : Nat) (landing : Landing α) :
    (t.land m n landing).2.latch = t.latch ∨
      ∃ rejection, (t.land m n landing).2.latch = (t.latch.trySet rejection).2 := by
  unfold land
  split
  · exact .inl rfl
  · cases landing with
    | value a => exact .inl rfl
    | fault plan => exact latch_fetchFailed m { t with log := (t.log.make plan).1 } _ _ _ _ _
    | known met => exact latch_fetchFailed m t _ _ _ _ met

/-- An event leaves the latch as it is, or tries to set it. -/
theorem latch_step (m : Manner) (t : Traffic α) (event : Event α) :
    (t.step m event).2.latch = t.latch ∨
      ∃ i, (t.step m event).2.latch = (t.latch.trySet i).2 := by
  cases event with
  | call name timeout => exact .inl (latch_call t name timeout)
  | go i => exact .inl (latch_go m t i)
  | expire i => exact .inl (latch_expire m t i)
  | land n landing => exact latch_land m t n landing
  | invalidate | pass | setClock => exact .inl rfl
  | trySet | trySetKnown => exact .inr ⟨_, rfl⟩

theorem fault_step (m : Manner) (set : t.latch.fault = some fault) (event : Event α) :
    (t.step m event).2.latch.fault = some fault := by
  rcases latch_step m t event with same | ⟨i, tried⟩
  · rw [same, set]
  · rw [tried, Latch.fault_trySet_of_set set]

theorem stage?_call_of_set (set : t.latch.fault = some fault) (name : String)
    (timeout : Option Number) :
    (t.step m (.call name timeout)).2.stage? t.callers.length = some (.done (.error fault)) := by
  have turned : t.call name timeout = t.atDesk (·.welcome name (.done (.error fault))) := by
    rw [call, set]
  rw [step, turned]
  exact (Desk.stage?_welcome t.toDesk name _ _).trans (if_pos rfl)

end Traffic

/-! ## In a network with many callers -/

namespace Airspace

variable {net : Network} {a : Airspace α} {m : Member} {i k : Nat}

theorem fault_step (net : Network) (set : (a.latches k).fault = some fault)
    (incident : Incident α) : ((a.step net incident).latches k).fault = some fault := by
  cases incident with
  | faults log => exact set
  | event j event =>
    cases here : net[j]? with
    | none => simpa only [step, here] using set
    | some m =>
      simp only [step, here, put]
      by_cases own : k = m.latch
      · subst own
        rw [setAt_self]
        exact Traffic.fault_step m.manner set event
      · rwa [setAt_of_ne _ own]

theorem stilled_step (here : net[i]? = some m) (set : (a.latches m.latch).fault = some fault)
    (incident : Incident α) :
    (a.desks i).Stilled fault ((a.step net incident).desks i) := by
  cases incident with
  | faults log => exact .refl _
  | event j event =>
    cases there : net[j]? with
    | none => simpa only [step, there] using .refl _
    | some m' =>
      simp only [step, there, put]
      by_cases own : i = j
      · subst own
        rw [here] at there
        cases there
        rw [setAt_self]
        exact Traffic.stilled_step (t := a.traffic m i) m.manner set event
      · rw [setAt_of_ne _ own]
        exact .refl _

theorem fault_run (net : Network) (set : (a.latches k).fault = some fault)
    (incidents : List (Incident α)) : ((a.run net incidents).latches k).fault = some fault := by
  induction incidents generalizing a with
  | nil => exact set
  | cons incident incidents ih => exact ih (fault_step net set incident)

theorem stilled_run (here : net[i]? = some m) (set : (a.latches m.latch).fault = some fault)
    (incidents : List (Incident α)) :
    (a.desks i).Stilled fault ((a.run net incidents).desks i) := by
  induction incidents generalizing a with
  | nil => exact .refl _
  | cons incident incidents ih =>
    exact (stilled_step here set incident).trans (ih (fault_step net set incident))

end Airspace

end CloudSession
