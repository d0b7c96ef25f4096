import CloudSession.Proofs.Fault.Chain
import CloudSession.Proofs.Supplier.Flight
import CloudSession.Supplier.Network

/-! # Rejections that are recognized

A fetch may fail at any attempt, with a rejection hidden anywhere on the chain of its fault. The
supplier looks for it unless the fault itself is a timeout: then the latch holds the first rejection
of the chain, and nothing is attempted any more. Of a timeout the chain is not looked at, so a
rejection that comes as the cause of one is missed.
-/

namespace CloudSession.Supplier

open Act

variable {σ α : Type} {s : Supplier σ α} {fetch : Act σ α} {w w' : World σ}

/-- What follows when a rejection is recognized behind the fault `i` of an attempt: the latch holds
the first rejection of the chain, unless it was set meanwhile, and the get ends on what it holds. -/
structure Flight.Recognized (f : s.Flight) (fetch : Act σ α) (count : Nat) (i : FaultId)
    (w : World σ) : Prop where
  latched : ∃ links first after, w.log.Rejects links i first ∧
    f.outcome fetch = (.error ((s.latch.read w.own).fault.getD first), after) ∧
    (s.latch.read after.own).fault = some ((s.latch.read w.own).fault.getD first)
  /-- Nothing is done any more but to the latch and the cell. -/
  after : ∃ latch cell, (f.outcome fetch).2.own = s.cell.write cell (s.latch.write latch w.own)
  last : ∀ later v, f.Comes fetch later v → later ≤ count

/-- What follows when there is no rejection behind the fault of an attempt: another attempt, or the
end of the get, which leaves the latch as it is. -/
def Flight.Passes (f : s.Flight) (fetch : Act σ α) (count : Nat) (w : World σ) : Prop :=
  f.Comes fetch (count + 1) w ∨
    ∃ k after, f.outcome fetch = (.error k, after) ∧ s.latch.read after.own = s.latch.read w.own

variable {f : s.Flight} {count : Nat} {i : FaultId}

theorem Flight.Comes.recognized (comes : f.Comes fetch count w)
    (unset : (s.latch.read w.own).fault = none) (failed : fetch.play w = (.error i, w'))
    {links : Nat} {first : FaultId} (rejects : w'.log.Rejects links i first)
    (verdict : w'.log.verdict i = .rejected first) : f.Recognized fetch count i w' := by
  have outcome := comes.outcome_of_rejected unset failed verdict
  refine ⟨⟨links, first, _, rejects, outcome, ?_⟩, ?_, ?_⟩
  · simp only [s.latch_cell, rejectedWorld, Slot.read_write, Latch.fault_trySet]
  · rw [outcome]
    exact ⟨_, _, rfl⟩
  · intro later v further
    exact comes.last failed (by simp [verdict]) further

theorem Flight.Comes.passes (comes : f.Comes fetch count w)
    (unset : (s.latch.read w.own).fault = none) (failed : fetch.play w = (.error i, w'))
    (honest : ¬ w'.log.Hides i) : f.Passes fetch count w' := by
  -- The get ends here with a fault of its own, having written nothing but the cell.
  have ends : ∀ k log, f.outcome fetch = f.land (.error k, { w' with log := log }) →
      f.Passes fetch count w' :=
    fun k log ended => .inr ⟨k, _, ended, s.latch_cell _ _⟩
  cases verdict : w'.log.verdict i with
  | rejected j => exact absurd verdict (FaultLog.verdict_ne_rejected honest j)
  | handOn => exact ends i w'.log (comes.outcome_of_handOn unset failed verdict)
  | timedOut =>
    have gives_up : s.spare ≤ count ∨ isDue f.deadline w'.clock = true → f.Passes fetch count w' :=
      fun spent => ends _ _ (comes.outcome_of_spent unset failed verdict spent)
    cases spent : isDue f.deadline w'.clock with
    | true => exact gives_up (.inr spent)
    | false =>
      rcases Nat.lt_or_ge count s.spare with fewer | none_left
      · exact .inl (.again comes unset failed verdict spent fewer)
      · exact gives_up (.inl none_left)

/-- Whatever attempt of a get fails, with whatever fault but a timeout: a rejection on its chain is
recognized. A fault of any sort, timeouts included, that has no rejection on its chain leaves the
latch alone. -/
theorem rejection_recognized (f : s.Flight) (fetch : Act σ α) (count : Nat) (w w' : World σ)
    (comes : f.Comes fetch count w) (unset : (s.latch.read w.own).fault = none) (i : FaultId)
    (failed : fetch.play w = (.error i, w')) (exception : w'.log.is FaultKind.isFailure i = true) :
    (w'.log.Hides i → w'.log.is FaultKind.isTimeout i = false →
      f.Recognized fetch count i w') ∧
    (¬ w'.log.Hides i → f.Passes fetch count w') := by
  constructor
  · intro hides in_time
    obtain ⟨links, first, rejects⟩ := hides.exists_rejects
    exact comes.recognized unset failed rejects
      (FaultLog.verdict_of_rejects rejects in_time exception)
  · intro honest
    exact comes.passes unset failed honest

/-- A supplier on its own, whose fetch follows a script. -/
def scripted : Member := ⟨⟨"w", some (.whole 60), 3⟩, 0, .script⟩

def scriptedFetch : Act Pool Value := Network.fetch [scripted] (Network.get [scripted] 0) scripted 0

def scriptedFlight (script : List Turn) : (scripted.supplier 0).Flight where
  timeout := none
  called := { clock := 1000, own := { scripts := fun _ => script } }
  unset := rfl
  deadline := none
  known := rfl
  leads := rfl

def rejectionBehind (kind : FaultKind) : FaultPlan :=
  .fault { kind := kind } (some (.ofKind (.problem .authorization))) none

/-- A timeout, and then a failure that arose from one that a rejection explains. -/
def rejectedLater : List Turn :=
  [{ landing := .fault (.ofKind .timeout) },
    { landing := .fault (.fault { kind := .runtime } none (some (rejectionBehind .value))) }]

/-- The second attempt ends the get with the rejection two links down. -/
theorem rejection_recognized_two_links_down :
    let f := scriptedFlight rejectedLater
    let w := (scriptedFetch.play f.launched).2
    let w' := (scriptedFetch.play w).2
    f.Comes scriptedFetch 1 w ∧ (w.own.latches 0).fault = none ∧
      scriptedFetch.play w = (.error 3, w') ∧ w'.log.is FaultKind.isFailure 3 = true ∧
      w'.log.Hides 3 ∧ w'.log.is FaultKind.isTimeout 3 = false ∧
      f.Recognized scriptedFetch 1 3 w' ∧ (f.outcome scriptedFetch).1 = .error 1 :=
  let f := scriptedFlight rejectedLater
  have comes : f.Comes scriptedFetch 1 (scriptedFetch.play f.launched).2 :=
    .again .first rfl rfl rfl rfl (by decide)
  have hides : (scriptedFetch.play (scriptedFetch.play f.launched).2).2.log.Hides 3 :=
    ⟨1, .head (b := 2) rfl (.head (b := 1) rfl .refl), rfl⟩
  have recognized := rejection_recognized f scriptedFetch 1 _ _ comes rfl 3 rfl rfl
  ⟨comes, rfl, rfl, rfl, hides, rfl, recognized.1 hides rfl, rfl⟩

/-- A rejection that explains a timeout is missed: the fetch is called again, and the latch stays
open. -/
theorem rejection_missed_behind_timeout :
    let f := scriptedFlight
      [{ landing := .fault (rejectionBehind .timeout) }, { landing := .value (.text "v1") }]
    let w := (scriptedFetch.play f.launched).2
    f.Comes scriptedFetch 0 f.launched ∧ (scriptedFetch.play f.launched).1 = .error 1 ∧
      w.log.is FaultKind.isFailure 1 = true ∧ w.log.Hides 1 ∧ f.Comes scriptedFetch 1 w ∧
      (f.outcome scriptedFetch).1 = .ok (.text "v1") ∧
      ((f.outcome scriptedFetch).2.own.latches 0).fault = none :=
  ⟨.first, rfl, rfl, ⟨0, .head (b := 0) rfl .refl, rfl⟩,
    .again .first rfl rfl rfl rfl (by decide), rfl, rfl⟩

end CloudSession.Supplier
