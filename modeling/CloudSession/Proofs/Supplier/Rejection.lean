import CloudSession.Proofs.Http.Rejection
import CloudSession.Proofs.Supplier.Halting

/-! # A supplier whose fetch logs in

A fetch that stops at a rejected login is not tried again: its fault is a rejection on its own, so
the supplier sets the latch to it and ends on it.
-/

namespace CloudSession.Supplier

open Act

variable {σ α : Type} [Wired σ] {logins : Request → Prop} {s : Supplier σ α} {fetch : Act σ α}

/-- A fault tells of the rejection of the request of a number, and the latch holds it. -/
def Latched (s : Supplier σ α) (n : Nat) (i : FaultId) (w : World σ) : Prop :=
  Blames n i w ∧ (s.latch.read w.own).fault = some i

/-- What it takes of a supplier to heed the rejection of the logins its fetch sends. -/
structure Heeds (logins : Request → Prop) (s : Supplier σ α) (fetch : Act σ α) : Prop where
  cell : ∀ cell state, Wire.Quiet state (s.cell.write cell state)
  latch : ∀ latch state, Wire.Quiet state (s.latch.write latch state)
  unlatched : Keeps (Alike s.latch.read) fetch
  fetch : Act.Heeds logins Blames fetch

variable (heeds : s.Heeds logins fetch)

include heeds

/-- While no login was rejected and the latch is open, a supplier halts at the latest over a login
of its fetch that is rejected. -/
theorem Heeds.halts : s.Halts
    (Wire.Unrefused logins Response.Rejects fun state => (s.latch.read state).fault = none)
    (fun i w => Stops logins Blames i w ∧ (∃ n, (Wired.wire.read w.own).Rejected logins n) ∧
      (s.latch.read w.own).fault = none)
    (Stops logins s.Latched) fetch where
  fetch := by
    intro w clear
    have unset : (s.latch.read (fetch.play w).2.own).fault = none := by
      rw [show s.latch.read (fetch.play w).2.own = s.latch.read w.own from heeds.unlatched w]
      exact clear.2
    have halted : Halted (Wire.Unrefused logins Response.Rejects fun _ => True)
        (Stops logins Blames) (fetch.play w) := (heeds.fetch w clear.1).halted trivial
    cases played : fetch.play w with
    | mk outcome w' =>
      rw [played] at halted unset
      cases outcome with
      | ok value => exact ⟨halted.1, unset⟩
      | error i =>
        by_cases unrejected : (Wired.wire.read w'.own).Unrejected logins
        · exact .inl ⟨unrejected, unset⟩
        · exact .inr ⟨halted.resolve_left fun clear => unrejected clear.1,
            not_forall_not.mp unrejected, unset⟩
  unset clear := clear.2
  authorization := by
    rintro i w ⟨stops, ⟨n, rejected⟩, -⟩
    exact (stops n rejected).2.kind?
  tried := by
    rintro i w ⟨stops, -, unset⟩
    have quiet := heeds.latch ((s.latch.read w.own).trySet i).2 w.own
    obtain ⟨sent, -⟩ := Prod.mk.inj quiet
    simp only [rejectedWorld, unset, Option.getD_none, FaultLog.arise, if_true]
    intro n rejected
    obtain ⟨last, blames⟩ := stops n (rejected.of_quiet quiet.symm)
    refine ⟨by rw [last, sent], blames.of_quiet quiet rfl, ?_⟩
    simp only [Slot.read_write, Latch.fault_trySet, unset, Option.getD_none]
  recognized := by
    intro i j w clear _ n rejected
    exact absurd (Wire.Refused.of_quiet rejected (heeds.latch _ _).symm) (clear.1 n)
  cell cell clear := clear.of_quiet (heeds.cell cell _) fun unset => by rw [s.latch_cell, unset]
  landed := by
    intro i w cell stops n rejected
    obtain ⟨sent, -⟩ := Prod.mk.inj (heeds.cell cell w.own)
    obtain ⟨last, blames, set⟩ := stops n (rejected.of_quiet (heeds.cell cell w.own).symm)
    refine ⟨by rw [last, sent], blames.of_quiet (heeds.cell cell w.own) rfl, ?_⟩
    rw [s.latch_cell, set]

theorem Heeds.get (timeout : Option Number) :
    Act.Heeds logins s.Latched (s.get fetch timeout) := by
  intro w unrejected
  cases held : (s.latch.read w.own).fault with
  | some fault =>
    rw [play_get_of_set held]
    exact .of_unrejected unrejected
  | none => exact (heeds.halts.get timeout w ⟨unrejected, held⟩).stopped

end CloudSession.Supplier
