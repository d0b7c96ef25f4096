import CloudSession.Proofs.Fault.Chain
import CloudSession.Proofs.Http.Halting
import CloudSession.Proofs.Supplier.Alone

/-! # A supplier whose fetch halts

While all is clear the latch is open, so the fetch is called. A fault that spells doom is one of
authorization: it is the rejection, whatever it is explained by, and the supplier seals the latch
with it.
-/

namespace CloudSession.Supplier

open Act

variable {σ α : Type} {clear : σ → Prop} {doom doomed : FaultId → World σ → Prop}
variable {s : Supplier σ α} {fetch : Act σ α}

/-- What it takes of a supplier to halt where its fetch does. -/
structure Halts (clear : σ → Prop) (doom doomed : FaultId → World σ → Prop) (s : Supplier σ α)
    (fetch : Act σ α) : Prop where
  fetch : Act.Halts clear doom fetch
  unset : ∀ {state}, clear state → (s.latch.read state).fault = none
  authorization : ∀ {i w}, doom i w → w.log.kind? i = some (.problem .authorization)
  /-- Behind a fetch that met its doom the latch is tried. -/
  tried : ∀ {i w}, doom i w →
    doomed ((s.latch.read w.own).fault.getD i) (s.rejectedWorld i i w)
  /-- So it is behind a failure of another sort that turns out to be a rejection. -/
  recognized : ∀ {i j w}, clear w.own → w.log.verdict i = .rejected j →
    doomed ((s.latch.read w.own).fault.getD j) (s.rejectedWorld i j w)
  cell : ∀ {state} cell, clear state → clear (s.cell.write cell state)
  landed : ∀ {i w} cell, doomed i w → doomed i { w with own := s.cell.write cell w.own }

variable (halts : s.Halts clear doom doomed fetch)

include halts

theorem Halts.fetchOnce (deadline : Option Float) (count : Nat) {retry : Option (Act σ α)}
    (again : ∀ act, retry = some act → Act.Halts clear doomed act) :
    Act.Halts clear doomed (s.fetchOnce fetch deadline count retry) := by
  intro w start
  have unset := halts.unset start
  have halted := halts.fetch w start
  cases played : fetch.play w with
  | mk outcome w' =>
    rw [played] at halted
    cases outcome with
    | ok value =>
      rw [play_fetchOnce_of_fetched unset played]
      exact halted
    | error i =>
      rw [play_fetchOnce_of_failed unset played]
      rcases halted with still | met
      · cases verdict : w'.log.verdict i with
        | handOn => exact .inl still
        | rejected j =>
          dsimp only
          rw [play_reject]
          exact .inr (halts.recognized still verdict)
        | timedOut =>
          cases filtered : retry.filter fun _ => !isDue deadline w'.clock with
          | none => exact .of_clear still
          | some act => exact again act (Option.filter_eq_some_iff.mp filtered).1 w' still
      · rw [FaultLog.verdict_of_authorization (halts.authorization met)]
        dsimp only
        rw [play_reject]
        exact .inr (halts.tried met)

theorem Halts.fetchWithin (deadline : Option Float) (left count : Nat) :
    Act.Halts clear doomed (s.fetchWithin fetch deadline left count) := by
  induction left generalizing count with
  | zero => exact halts.fetchOnce deadline count (by simp)
  | succ left ih =>
    apply halts.fetchOnce
    rintro act ⟨⟩
    exact ih (count + 1)

theorem Halts.lead (deadline : Option Float) :
    Act.Halts clear doomed (s.lead fetch deadline) := by
  apply Act.Halts.bind (.of_keeps (.of_own fun _ => rfl))
  intro cell
  have launched : Keeps (Retains clear) (s.cell.store cell.launch) :=
    .of_modifyOwn fun _ => halts.cell _
  apply Act.Halts.bind (.of_keeps launched)
  intro _
  apply (halts.fetchWithin deadline s.spare 0).settling
  intro outcome w
  refine ⟨{ w with own := s.cell.write ((s.cell.read w.own).land cell.ticket w.clock
    outcome.toOption) w.own }, ?_, halts.cell _, fun _ => halts.landed _⟩
  cases outcome <;> rfl

theorem Halts.get (timeout : Option Number) :
    Act.Halts clear doomed (s.get fetch timeout) := by
  apply Act.Halts.bind (.of_keeps keeps_checkLatch)
  intro _
  apply Act.Halts.bind (.of_keeps (keeps_deadline timeout))
  intro deadline
  apply Act.Halts.bind (.of_keeps (.of_own fun _ => rfl))
  intro cell
  apply Act.Halts.bind (.of_keeps (.of_own fun _ => rfl))
  intro now
  cases cell.arrive s.ttl now with
  | served value => exact .pure value
  | joins flight => exact .of_keeps (.fail _)
  | leads => exact halts.lead deadline
  | unjudged => exact .of_keeps (.fail _)

end CloudSession.Supplier
