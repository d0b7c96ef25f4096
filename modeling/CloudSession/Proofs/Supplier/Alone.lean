import CloudSession.Proofs.Keeping
import CloudSession.Supplier

/-! # A supplier with one caller

A supplier looks at the latch before each call of its fetch, so whatever is kept by what fetches do
while their latch is not set is kept by the supplier. A value that it did not remember is one that
its fetch ended with since it was asked.
-/

namespace CloudSession

open Act

namespace Supplier

variable {σ α : Type} {R : σ → σ → Prop} {s : Supplier σ α} {fetch : Act σ α}

theorem play_checkLatch_of_set {w : World σ} {fault : FaultId}
    (set : (s.latch.read w.own).fault = some fault) :
    s.checkLatch.play w = (.error fault, w) := by
  have held : s.latch.fetch.play w = (.ok (s.latch.read w.own), w) := rfl
  rw [checkLatch, play_bind, held]
  simp only [set, play_throw]

theorem play_checkLatch_of_unset {w : World σ} (unset : (s.latch.read w.own).fault = none) :
    s.checkLatch.play w = (.ok (), w) := by
  have held : s.latch.fetch.play w = (.ok (s.latch.read w.own), w) := rfl
  rw [checkLatch, play_bind, held]
  simp only [unset, play_pure]

/-- Once the latch is set there is no further attempt. -/
theorem play_fetchWithin_of_set {w : World σ} {fault : FaultId}
    (set : (s.latch.read w.own).fault = some fault) (deadline : Option Float) (left count : Nat) :
    (s.fetchWithin fetch deadline left count).play w = (.error fault, w) := by
  cases left <;> rw [fetchWithin, fetchOnce, play_bind, play_checkLatch_of_set set]

/-- Once the latch is set whoever asks is turned away with what it holds. -/
theorem play_get_of_set {w : World σ} {fault : FaultId}
    (set : (s.latch.read w.own).fault = some fault) (timeout : Option Number) :
    (s.get fetch timeout).play w = (.error fault, w) := by
  rw [get, play_bind, play_checkLatch_of_set set]

theorem play_get_of_served {w : World σ} {value : α}
    (unset : (s.latch.read w.own).fault = none)
    (served : (s.cell.read w.own).arrive s.ttl w.clock = .served value) :
    (s.get fetch).play w = (.ok value, w) := by
  have undated : (Supplier.deadline none : Act σ (Option Float)).play w = (.ok none, w) := rfl
  have timed : (Act.now : Act σ Float).play w = (.ok w.clock, w) := rfl
  rw [get, play_bind_of_ok (play_checkLatch_of_unset unset), play_bind_of_ok undated,
    play_bind_of_ok (Slot.play_fetch _ w), play_bind_of_ok timed, served]
  rfl

/-- The world behind a rejection: the latch is tried, and its fault arises from the one met. -/
def rejectedWorld (s : Supplier σ α) (fault rejection : FaultId) (w : World σ) : World σ :=
  { w with
    log := w.log.arise ((s.latch.read w.own).fault.getD rejection) fault
    own := s.latch.write ((s.latch.read w.own).trySet rejection).2 w.own }

theorem play_reject (s : Supplier σ α) (fault rejection : FaultId) (w : World σ) :
    (s.reject fault rejection : Act σ α).play w =
      (.error ((s.latch.read w.own).fault.getD rejection), s.rejectedWorld fault rejection w) := by
  rw [reject, play_bind_of_ok (Slot.play_change _ _ w), play_bind_of_ok (Slot.play_fetch _ _)]
  simp only [Slot.read_write, Latch.fault_trySet, Option.getD_some]
  split
  · rename_i same
    rw [play_throw, rejectedWorld, same, FaultLog.arise, if_pos rfl]
  · rfl

section

variable {w w' : World σ} (unset : (s.latch.read w.own).fault = none)

include unset

theorem play_fetchOnce_of_fetched {value : α} (fetched : fetch.play w = (.ok value, w'))
    (deadline : Option Float) (count : Nat) (retry : Option (Act σ α)) :
    (s.fetchOnce fetch deadline count retry).play w = (.ok value, w') := by
  rw [fetchOnce, play_bind_of_ok (play_checkLatch_of_unset unset),
    play_bind_of_ok (play_attempt_of fetched), play_pure]

/-- Where a fetch failed its verdict decides. -/
theorem play_fetchOnce_of_failed {i : FaultId} (failed : fetch.play w = (.error i, w'))
    (deadline : Option Float) (count : Nat) (retry : Option (Act σ α)) :
    (s.fetchOnce fetch deadline count retry).play w =
      match w'.log.verdict i with
      | .handOn => (.error i, w')
      | .rejected j => (s.reject i j).play w'
      | .timedOut => ((retry.filter fun _ => !isDue deadline w'.clock).getD
          (failFrom (givenUp s.name (count + 1)) i)).play w' := by
  have looked : (Act.log : Act σ FaultLog).play w' = (.ok w'.log, w') := rfl
  have timed : (Act.now : Act σ Float).play w' = (.ok w'.clock, w') := rfl
  rw [fetchOnce, play_bind_of_ok (play_checkLatch_of_unset unset),
    play_bind_of_ok (play_attempt_of failed), play_bind_of_ok looked]
  cases w'.log.verdict i with
  | handOn => rfl
  | rejected j => rfl
  | timedOut =>
    dsimp only
    rw [play_bind_of_ok timed]
    cases retry.filter fun _ => !isDue deadline w'.clock <;> rfl

end

variable [IsPreorder σ R]

theorem keeps_checkLatch : Keeps R s.checkLatch := by
  apply Keeps.of_own
  intro w
  cases held : (s.latch.read w.own).fault with
  | none => rw [play_checkLatch_of_unset held]
  | some fault => rw [play_checkLatch_of_set held]

theorem keeps_reject
    (latch : ∀ i state, R state (s.latch.write ((s.latch.read state).trySet i).2 state))
    (fault rejection : FaultId) : Keeps R (s.reject fault rejection) := by
  refine .bind (.of_modifyOwn (latch rejection)) fun _ => .bind (.of_own fun _ => rfl) ?_
  intro held
  dsimp only
  split
  · exact .throw _
  · exact .failWhile _ _

/-- What it takes of a relation to hold over what a supplier does. -/
structure Kept (R : σ → σ → Prop) (s : Supplier σ α) (fetch : Act σ α) : Prop where
  cell : ∀ cell state, R state (s.cell.write cell state)
  latch : ∀ i state, R state (s.latch.write ((s.latch.read state).trySet i).2 state)
  /-- Calls of the fetch matter while the latch is not set. -/
  fetch : ∀ w, (s.latch.read w.own).fault = none → R w.own (fetch.play w).2.own

/-- Whatever an attempt does behind its call of the fetch is kept. -/
theorem Kept.behind_call (kept : Kept R s fetch) (deadline : Option Float) (count : Nat)
    {retry : Option (Act σ α)} (again : ∀ act, retry = some act → Keeps R act) {w : World σ}
    (unset : (s.latch.read w.own).fault = none) :
    R (fetch.play w).2.own ((s.fetchOnce fetch deadline count retry).play w).2.own := by
  cases fetched : fetch.play w with
  | mk outcome w' =>
    cases outcome with
    | ok value =>
      rw [play_fetchOnce_of_fetched unset fetched]
      exact refl_of R w'.own
    | error i =>
      rw [play_fetchOnce_of_failed unset fetched]
      cases w'.log.verdict i with
      | handOn => exact refl_of R w'.own
      | rejected rejection => exact keeps_reject kept.latch i rejection w'
      | timedOut =>
        cases filtered : retry.filter fun _ => !isDue deadline w'.clock with
        | none => exact Keeps.failFrom (R := R) (α := α) (givenUp s.name (count + 1)) i w'
        | some act => exact again act (Option.filter_eq_some_iff.mp filtered).1 w'

theorem Kept.fetchOnce (kept : Kept R s fetch) (deadline : Option Float) (count : Nat)
    {retry : Option (Act σ α)} (again : ∀ act, retry = some act → Keeps R act) :
    Keeps R (s.fetchOnce fetch deadline count retry) := by
  intro w
  cases held : (s.latch.read w.own).fault with
  | some fault =>
    rw [Supplier.fetchOnce, play_bind, play_checkLatch_of_set held]
    exact refl_of R w.own
  | none => exact trans_of R (kept.fetch w held) (kept.behind_call deadline count again held)

theorem Kept.fetchWithin (kept : Kept R s fetch) (deadline : Option Float) (left count : Nat) :
    Keeps R (s.fetchWithin fetch deadline left count) := by
  induction left generalizing count with
  | zero => exact kept.fetchOnce deadline count (by simp)
  | succ left ih =>
    refine kept.fetchOnce deadline count ?_
    rintro act ⟨⟩
    exact ih (count + 1)

/-- So is whatever follows the first call. -/
theorem Kept.behind_first_call (kept : Kept R s fetch) (deadline : Option Float) (left count : Nat)
    {w : World σ} (unset : (s.latch.read w.own).fault = none) :
    R (fetch.play w).2.own ((s.fetchWithin fetch deadline left count).play w).2.own := by
  cases left with
  | zero => exact kept.behind_call deadline count (by simp) unset
  | succ left =>
    refine kept.behind_call deadline count ?_ unset
    rintro act ⟨⟩
    exact kept.fetchWithin deadline left (count + 1)

theorem Kept.lead (kept : Kept R s fetch) (deadline : Option Float) :
    Keeps R (s.lead fetch deadline) := by
  refine .bind (.of_own fun _ => rfl) fun cell => .bind (.of_modifyOwn (kept.cell _)) fun _ => ?_
  refine .bind (kept.fetchWithin deadline s.spare 0).attempt fun outcome => ?_
  refine .bind (.of_own fun _ => rfl) fun now => ?_
  exact .bind (.of_modifyOwn fun _ => kept.cell _ _) fun _ => .settle outcome

theorem keeps_deadline (timeout : Option Number) : Keeps R (Supplier.deadline timeout) := by
  cases timeout with
  | none => exact .pure none
  | some seconds =>
    simp only [Supplier.deadline]
    split
    · exact .of_own fun _ => rfl
    · exact .fail _

theorem Kept.get (kept : Kept R s fetch) (timeout : Option Number) :
    Keeps R (s.get fetch timeout) := by
  refine .bind keeps_checkLatch fun _ => .bind (keeps_deadline timeout) fun deadline => ?_
  refine .bind (.of_own fun _ => rfl) fun cell => .bind (.of_own fun _ => rfl) fun now => ?_
  cases cell.arrive s.ttl now with
  | served value => exact .pure value
  | joins flight => exact .fail _
  | leads => exact kept.lead deadline
  | unjudged => exact .fail _

/-- A caller who is to fetch calls the fetch first of all. -/
theorem Kept.behind_get (kept : Kept R s fetch) {w : World σ}
    (unset : (s.latch.read w.own).fault = none)
    (leads : (s.cell.read w.own).arrive s.ttl w.clock = .leads) :
    R (fetch.play { w with own := s.cell.write (s.cell.read w.own).launch w.own }).2.own
      ((s.get fetch).play w).2.own := by
  have launched : (s.latch.read (s.cell.write (s.cell.read w.own).launch w.own)).fault = none := by
    rw [s.latch_cell, unset]
  have looked : s.cell.fetch.play w = (.ok (s.cell.read w.own), w) := rfl
  have timed : (Act.now : Act σ Float).play w = (.ok w.clock, w) := rfl
  have undated : (Supplier.deadline none : Act σ (Option Float)).play w = (.ok none, w) := rfl
  rw [Supplier.get, play_bind_of_ok (play_checkLatch_of_unset unset), play_bind_of_ok undated,
    play_bind_of_ok looked, play_bind_of_ok timed, leads]
  dsimp only
  rw [Supplier.lead, play_bind_of_ok looked, play_bind_of_ok (Slot.play_store _ _ w),
    play_bind_of_ok (play_attempt _ _)]
  refine trans_of R (kept.behind_first_call none s.spare 0 launched) ?_
  refine Keeps.bind (.of_own fun _ => rfl) (fun now => ?_) _
  exact .bind (.of_modifyOwn fun _ => kept.cell _ _) fun _ => .settle _

/-! ## Values that are fetched -/

/-- Between two worlds a call of the fetch ends with a value. -/
def Obtains (R : σ → σ → Prop) (fetch : Act σ α) (value : α) (w w' : World σ) : Prop :=
  ∃ before after, R w.own before.own ∧ fetch.play before = (.ok value, after) ∧
    R after.own w'.own

omit [IsPreorder σ R] in
theorem play_reject_ne_ok (fault rejection : FaultId) (value : α) (w w' : World σ) :
    (s.reject fault rejection : Act σ α).play w ≠ (.ok value, w') := by
  intro ended
  obtain ⟨_, _, _, ended⟩ := exists_of_play_bind ended
  obtain ⟨_, _, _, ended⟩ := exists_of_play_bind ended
  dsimp only at ended
  split at ended
  · cases ended
  · obtain ⟨_, _, _, ended⟩ := exists_of_play_bind ended
    cases ended

omit [IsPreorder σ R] in
theorem unset_of_play_checkLatch {w w' : World σ} (open_yet : s.checkLatch.play w = (.ok (), w')) :
    (s.latch.read w.own).fault = none ∧ w = w' := by
  cases held : (s.latch.read w.own).fault with
  | none =>
    rw [play_checkLatch_of_unset held] at open_yet
    cases open_yet
    exact ⟨rfl, rfl⟩
  | some fault =>
    rw [play_checkLatch_of_set held] at open_yet
    cases open_yet

theorem Kept.obtains_fetchOnce (kept : Kept R s fetch) {deadline : Option Float} {count : Nat}
    {retry : Option (Act σ α)} {value : α} {w w' : World σ}
    (again : ∀ act w₁, retry = some act → act.play w₁ = (.ok value, w') →
      Obtains R fetch value w₁ w')
    (ended : (s.fetchOnce fetch deadline count retry).play w = (.ok value, w')) :
    Obtains R fetch value w w' := by
  obtain ⟨_, _, open_yet, ended⟩ := exists_of_play_bind ended
  obtain ⟨unset, rfl⟩ := unset_of_play_checkLatch open_yet
  obtain ⟨outcome, between, tried, ended⟩ := exists_of_play_bind ended
  rw [play_attempt] at tried
  cases tried
  cases fetched : (fetch.play w).1 with
  | ok own =>
    rw [fetched] at ended
    cases ended
    exact ⟨w, _, refl_of R w.own, Prod.ext fetched rfl, refl_of R _⟩
  | error i =>
    rw [fetched] at ended
    obtain ⟨log, _, looked, ended⟩ := exists_of_play_bind ended
    cases looked
    dsimp only at ended
    split at ended
    · cases ended
    · exact absurd ended (play_reject_ne_ok _ _ _ _ _)
    · obtain ⟨now, _, looked, ended⟩ := exists_of_play_bind ended
      cases looked
      split at ended
      · rename_i act filtered
        obtain ⟨before, after, later, obtained, still⟩ :=
          again act _ (Option.filter_eq_some_iff.mp filtered).1 ended
        exact ⟨before, after, trans_of R (kept.fetch w unset) later, obtained, still⟩
      · obtain ⟨_, _, _, ended⟩ := exists_of_play_bind ended
        obtain ⟨_, _, _, ended⟩ := exists_of_play_bind ended
        cases ended

theorem Kept.obtains_fetchWithin (kept : Kept R s fetch) {deadline : Option Float}
    {left count : Nat} {value : α} {w w' : World σ}
    (ended : (s.fetchWithin fetch deadline left count).play w = (.ok value, w')) :
    Obtains R fetch value w w' := by
  induction left generalizing count w with
  | zero => exact kept.obtains_fetchOnce (by simp) ended
  | succ left ih =>
    refine kept.obtains_fetchOnce ?_ ended
    rintro act w₁ ⟨⟩ ended
    exact ih ended

theorem Kept.obtains_lead (kept : Kept R s fetch) {deadline : Option Float} {value : α}
    {w w' : World σ} (ended : (s.lead fetch deadline).play w = (.ok value, w')) :
    Obtains R fetch value w w' := by
  obtain ⟨cell, _, looked, ended⟩ := exists_of_play_bind ended
  cases looked
  obtain ⟨_, started, launched, ended⟩ := exists_of_play_bind ended
  cases launched
  obtain ⟨outcome, landed, tried, ended⟩ := exists_of_play_bind ended
  obtain ⟨now, _, looked, ended⟩ := exists_of_play_bind ended
  cases looked
  obtain ⟨_, noted, changed, ended⟩ := exists_of_play_bind ended
  cases changed
  cases outcome with
  | error i => cases ended
  | ok own =>
    cases ended
    rw [play_attempt] at tried
    obtain ⟨fetched, rfl⟩ := Prod.mk.inj tried
    obtain ⟨before, after, later, obtained, still⟩ :=
      kept.obtains_fetchWithin (Prod.ext (Except.ok.inj fetched) rfl)
    exact ⟨before, after, trans_of R (kept.cell _ _) later, obtained,
      trans_of R still (kept.cell _ _)⟩

omit [IsPreorder σ R] in
theorem own_of_play_deadline {timeout : Option Number} {deadline : Option Float} {w w' : World σ}
    (known : (Supplier.deadline timeout).play w = (.ok deadline, w')) : w = w' := by
  cases timeout with
  | none =>
    cases known
    rfl
  | some seconds =>
    simp only [Supplier.deadline] at known
    split at known <;> cases known
    rfl

omit [IsPreorder σ R] in
theorem log_of_play_deadline {timeout : Option Number} {i : FaultId} {w w' : World σ}
    (failed : (Supplier.deadline timeout : Act σ (Option Float)).play w = (.error i, w')) :
    ∃ log, w' = { w with log := log } := by
  cases timeout with
  | none => cases failed
  | some seconds =>
    simp only [Supplier.deadline] at failed
    split at failed <;> cases failed
    exact ⟨_, rfl⟩

/-- Where nothing is remembered and nothing under way, the value is one that is fetched. -/
theorem Kept.obtains_get (kept : Kept R s fetch) {timeout : Option Number} {value : α}
    {w w' : World σ} (leads : (s.cell.read w.own).arrive s.ttl w.clock = .leads)
    (ended : (s.get fetch timeout).play w = (.ok value, w')) : Obtains R fetch value w w' := by
  obtain ⟨_, _, open_yet, ended⟩ := exists_of_play_bind ended
  obtain ⟨-, rfl⟩ := unset_of_play_checkLatch open_yet
  obtain ⟨deadline, _, known, ended⟩ := exists_of_play_bind ended
  obtain rfl := own_of_play_deadline known
  obtain ⟨cell, _, looked, ended⟩ := exists_of_play_bind ended
  cases looked
  obtain ⟨now, _, looked, ended⟩ := exists_of_play_bind ended
  cases looked
  simp only [leads] at ended
  exact kept.obtains_lead ended

end Supplier

end CloudSession
