import CloudSession.Proofs.Twin
import CloudSession.Supplier

/-! # A supplier with two fetches that run alike

A supplier decides by what its cell and its latch hold, by the clock, and by what a fault is.
-/

namespace CloudSession.Supplier

open Act

variable {σ α : Type} {S : σ → σ → Prop}

/-- What a supplier looks at is the same in states that look the same, and its fetches are
paired. -/
structure Paired (S : σ → σ → Prop) (s : Supplier σ α) (fetch fetch' : Act σ α) : Prop where
  cell : s.cell.Paired S (· = ·)
  latch : s.latch.Paired S (· = ·)
  fetch : Act.Paired S (· = ·) fetch fetch'

variable {s : Supplier σ α}

section

variable (latch : s.latch.Paired S (· = ·))

include latch

theorem paired_checkLatch : Act.Paired S (· = ·) s.checkLatch s.checkLatch := by
  refine .bindEq latch.fetch fun held => ?_
  cases held.fault with
  | none => exact .pure rfl
  | some i => exact .throw i

theorem paired_reject (fault rejection : FaultId) :
    Act.Paired S (· = ·) (s.reject fault rejection : Act σ α) (s.reject fault rejection) := by
  refine .bindEq (latch.change fun _ _ same => same ▸ rfl) fun _ => ?_
  refine .bindEq latch.fetch fun held => ?_
  dsimp only
  split
  · exact .throw _
  · exact .failWhile _ _

end

theorem paired_deadline (timeout : Option Number) :
    Act.Paired S (· = ·) (deadline timeout : Act σ (Option Float)) (deadline timeout) := by
  cases timeout with
  | none => exact .pure rfl
  | some seconds =>
    simp only [deadline]
    split
    · exact .bindEq .now fun _ => .pure rfl
    · exact .fail _

variable {fetch fetch' : Act σ α} (paired : s.Paired S fetch fetch')

include paired

theorem Paired.fetchOnce (deadline : Option Float) (count : Nat) {retry retry' : Option (Act σ α)}
    (again : Option.Rel (Act.Paired S (· = ·)) retry retry') :
    Act.Paired S (· = ·) (s.fetchOnce fetch deadline count retry)
      (s.fetchOnce fetch' deadline count retry') := by
  refine .bindEq (paired_checkLatch paired.latch) fun _ => ?_
  refine .bindEq paired.fetch.attempt fun outcome => ?_
  cases outcome with
  | ok value => exact .pure rfl
  | error i =>
    apply Act.Paired.log.bind
    intro log log' same
    -- The verdict speaks of what faults are and how they are linked.
    have verdict : log.verdict i = log'.verdict i := by
      rw [← log.verdict_redacted, same, log'.verdict_redacted]
    rw [verdict]
    cases log'.verdict i with
    | handOn => exact .throw i
    | rejected rejection => exact paired_reject paired.latch i rejection
    | timedOut =>
      refine .bindEq .now fun now => ?_
      cases again with
      | none => exact .failFrom _ _
      | some again =>
        cases isDue deadline now with
        | true => exact .failFrom _ _
        | false => exact again

theorem Paired.fetchWithin (deadline : Option Float) (left count : Nat) :
    Act.Paired S (· = ·) (s.fetchWithin fetch deadline left count)
      (s.fetchWithin fetch' deadline left count) := by
  induction left generalizing count with
  | zero => exact paired.fetchOnce deadline count .none
  | succ left ih => exact paired.fetchOnce deadline count (.some (ih (count + 1)))

theorem Paired.lead (deadline : Option Float) :
    Act.Paired S (· = ·) (s.lead fetch deadline) (s.lead fetch' deadline) := by
  refine .bindEq paired.cell.fetch fun cell => .bindEq (paired.cell.store rfl) fun _ => ?_
  refine .bindEq (paired.fetchWithin deadline s.spare 0).attempt fun outcome => ?_
  refine .bindEq .now fun now => ?_
  exact .bindEq (paired.cell.change fun _ _ same => same ▸ rfl) fun _ => .settle outcome

theorem Paired.get (timeout : Option Number) :
    Act.Paired S (· = ·) (s.get fetch timeout) (s.get fetch' timeout) := by
  refine .bindEq (paired_checkLatch paired.latch) fun _ => ?_
  refine .bindEq (paired_deadline timeout) fun deadline => ?_
  refine .bindEq paired.cell.fetch fun cell => .bindEq .now fun now => ?_
  cases cell.arrive s.ttl now with
  | served value => exact .pure rfl
  | joins flight => exact .fail _
  | leads => exact paired.lead deadline
  | unjudged => exact .fail _

end CloudSession.Supplier
