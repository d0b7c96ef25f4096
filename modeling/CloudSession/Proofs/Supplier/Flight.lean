import CloudSession.Proofs.Supplier.Alone

/-! # The attempts of a get

A get that leads a flight comes to one attempt after another. At each of them its outcome is what
is left to do there, so the way the attempt ends tells how the get does, unless another follows.
-/

namespace CloudSession.Supplier

open Act

variable {σ α : Type} {s : Supplier σ α} {fetch : Act σ α} {w w' : World σ}

/-- A get that leads a flight. -/
structure Flight (s : Supplier σ α) where
  timeout : Option Number
  called : World σ
  unset : (s.latch.read called.own).fault = none
  deadline : Option Float
  known : (Supplier.deadline timeout).play called = (.ok deadline, called)
  leads : (s.cell.read called.own).arrive s.ttl called.clock = .leads

namespace Flight

variable (f : s.Flight)

def outcome (fetch : Act σ α) : Except FaultId α × World σ := (s.get fetch f.timeout).play f.called

def launched : World σ :=
  { f.called with own := s.cell.write (s.cell.read f.called.own).launch f.called.own }

/-- The end of the get, once its last attempt ended. -/
def land (ended : Except FaultId α × World σ) : Except FaultId α × World σ :=
  (ended.1, { ended.2 with own := s.cell.write ((s.cell.read ended.2.own).land
    (s.cell.read f.called.own).ticket ended.2.clock ended.1.toOption) ended.2.own })

/-- The get comes to an attempt after some others, each of which timed out before its time was
spent. -/
inductive Comes (fetch : Act σ α) : Nat → World σ → Prop where
  | first : Comes fetch 0 f.launched
  | again {count : Nat} {w w' : World σ} {i : FaultId} :
    Comes fetch count w → (s.latch.read w.own).fault = none → fetch.play w = (.error i, w') →
    w'.log.verdict i = .timedOut → isDue f.deadline w'.clock = false → count < s.spare →
    Comes fetch (count + 1) w'

variable {f} {count : Nat}

theorem outcome_eq_land :
    f.outcome fetch = f.land ((s.fetchWithin fetch f.deadline s.spare 0).play f.launched) := by
  have read (w : World σ) : s.cell.fetch.play w = (.ok (s.cell.read w.own), w) := rfl
  have timed (w : World σ) : (Act.now : Act σ Float).play w = (.ok w.clock, w) := rfl
  rw [outcome, get, play_bind_of_ok (play_checkLatch_of_unset f.unset), play_bind_of_ok f.known,
    play_bind_of_ok (read _), play_bind_of_ok (timed _), f.leads]
  dsimp only
  rw [lead, play_bind_of_ok (read _), play_bind_of_ok (Slot.play_store _ _ _),
    play_bind_of_ok (play_attempt _ _), play_bind_of_ok (timed _),
    play_bind_of_ok (Slot.play_change _ _ _)]
  rw [land, launched]
  cases ((s.fetchWithin fetch f.deadline s.spare 0).play _).1 <;> rfl

/-- The outcome is that of the attempts that are left at any of them. -/
theorem Comes.outcome_eq (comes : f.Comes fetch count w) : f.outcome fetch =
    f.land ((s.fetchWithin fetch f.deadline (s.spare - count) count).play w) := by
  induction comes with
  | first => exact outcome_eq_land
  | @again count w w' i comes unset failed timed_out in_time fewer ih =>
    have one_more : s.spare - count = (s.spare - (count + 1)) + 1 := by omega
    rw [ih, one_more, fetchWithin, play_fetchOnce_of_failed unset failed, timed_out]
    simp only [in_time, Option.filter_some, Bool.not_false, if_true, Option.getD_some]

/-- There is one way through the attempts. -/
theorem Comes.unique {w₁ w₂ : World σ} (comes : f.Comes fetch count w₁)
    (other : f.Comes fetch count w₂) : w₁ = w₂ := by
  induction comes generalizing w₂ with
  | first =>
    cases other
    rfl
  | again _ _ failed _ _ _ ih =>
    cases other with
    | again comes' _ failed' =>
      obtain rfl := ih comes'
      rw [failed] at failed'
      cases failed'
      rfl

/-- A get that comes to an attempt came to each one before. -/
theorem Comes.earlier {later : Nat} (comes : f.Comes fetch later w) (before : count ≤ later) :
    ∃ w, f.Comes fetch count w := by
  induction comes with
  | first =>
    obtain rfl := Nat.le_zero.mp before
    exact ⟨_, .first⟩
  | @again n w w' i comes unset failed timed_out in_time fewer ih =>
    rcases Nat.lt_or_eq_of_le before with earlier | rfl
    · exact ih (Nat.le_of_lt_succ earlier)
    · exact ⟨w', .again comes unset failed timed_out in_time fewer⟩

/-! ## Ends -/

/-- An attempt is made, however many there may be behind it. -/
theorem exists_fetchWithin (s : Supplier σ α) (fetch : Act σ α) (deadline : Option Float)
    (left count : Nat) : ∃ retry, (left = 0 → retry = none) ∧
      s.fetchWithin fetch deadline left count = s.fetchOnce fetch deadline count retry := by
  cases left with
  | zero => exact ⟨none, fun _ => rfl, rfl⟩
  | succ left => exact ⟨some _, by simp, rfl⟩

theorem Comes.outcome_of_latched (comes : f.Comes fetch count w) {fault : FaultId}
    (set : (s.latch.read w.own).fault = some fault) :
    f.outcome fetch = f.land (.error fault, w) := by
  rw [comes.outcome_eq, play_fetchWithin_of_set set]

theorem Comes.outcome_of_fetched (comes : f.Comes fetch count w)
    (unset : (s.latch.read w.own).fault = none) {value : α}
    (fetched : fetch.play w = (.ok value, w')) : f.outcome fetch = f.land (.ok value, w') := by
  obtain ⟨retry, -, once⟩ := exists_fetchWithin s fetch f.deadline (s.spare - count) count
  rw [comes.outcome_eq, once, play_fetchOnce_of_fetched unset fetched]

section

variable {i : FaultId} (comes : f.Comes fetch count w)
variable (unset : (s.latch.read w.own).fault = none) (failed : fetch.play w = (.error i, w'))

include comes unset failed

theorem Comes.outcome_of_handOn (verdict : w'.log.verdict i = .handOn) :
    f.outcome fetch = f.land (.error i, w') := by
  obtain ⟨retry, -, once⟩ := exists_fetchWithin s fetch f.deadline (s.spare - count) count
  rw [comes.outcome_eq, once, play_fetchOnce_of_failed unset failed, verdict]

theorem Comes.outcome_of_rejected {first : FaultId}
    (verdict : w'.log.verdict i = .rejected first) : f.outcome fetch =
      f.land (.error ((s.latch.read w'.own).fault.getD first), s.rejectedWorld i first w') := by
  obtain ⟨retry, -, once⟩ := exists_fetchWithin s fetch f.deadline (s.spare - count) count
  rw [comes.outcome_eq, once, play_fetchOnce_of_failed unset failed, verdict, ← play_reject]

/-- Behind a timeout the get gives up when there is no attempt left or no time. -/
theorem Comes.outcome_of_spent (verdict : w'.log.verdict i = .timedOut)
    (spent : s.spare ≤ count ∨ isDue f.deadline w'.clock = true) : f.outcome fetch =
      f.land ((failFrom (givenUp s.name (count + 1)) i).play w') := by
  obtain ⟨retry, last, once⟩ := exists_fetchWithin s fetch f.deadline (s.spare - count) count
  rw [comes.outcome_eq, once, play_fetchOnce_of_failed unset failed, verdict]
  rcases spent with none_left | due
  · rw [last (Nat.sub_eq_zero_of_le none_left)]
    rfl
  · simp [due]

end

/-- An attempt that failed with anything but a timeout is the last one. -/
theorem Comes.last (comes : f.Comes fetch count w) {i : FaultId}
    (failed : fetch.play w = (.error i, w')) (ended : w'.log.verdict i ≠ .timedOut)
    {later : Nat} {v : World σ} (further : f.Comes fetch later v) : later ≤ count := by
  refine Nat.le_of_not_lt fun more => ?_
  obtain ⟨next, reached⟩ := further.earlier more
  cases reached with
  | again comes' _ failed' timed_out =>
    obtain rfl := comes.unique comes'
    rw [failed] at failed'
    cases failed'
    exact ended timed_out

end Flight

end CloudSession.Supplier
