import CloudSession.Proofs.Http.Spending
import CloudSession.Proofs.Supplier.Alone

/-! # What a supplier spends

A supplier spends what its fetch spends at each attempt, and whoever asks it leads at most one
flight of so many attempts.
-/

namespace CloudSession.Supplier

open Act

variable {σ α : Type} [Wired σ] {P Q : Sent → Prop} {a b c d : Nat}

/-- A supplier whose fetch spends so much, and which sends nothing on its own. -/
structure Thrifty (P Q : Sent → Prop) (a b : Nat) (s : Supplier σ α) (fetch : Act σ α) : Prop where
  cell : ∀ cell state, Alike (fun s => (Wired.wire.read s : Wire).sent) state
    (s.cell.write cell state)
  latch : ∀ latch state, Alike (fun s => (Wired.wire.read s : Wire).sent) state
    (s.latch.write latch state)
  fetch : Spends P Q a b fetch

variable {s : Supplier σ α} {fetch : Act σ α} (thrifty : s.Thrifty P Q a b fetch)

include thrifty

theorem Thrifty.fetchOnce (deadline : Option Float) (count : Nat) {retry : Option (Act σ α)}
    (again : ∀ act, retry = some act → Spends P Q c d act) :
    Spends P Q (a + c) (b + d) (s.fetchOnce fetch deadline count retry) := by
  apply Spends.behind keeps_checkLatch
  intro _
  apply Spends.bind thrifty.fetch.attempt
  intro outcome
  cases outcome with
  | ok value => exact .of_quiet (.pure value)
  | error i =>
    apply Spends.behind (.of_own fun _ => rfl)
    intro log
    cases log.verdict i with
    | handOn => exact .of_quiet (.throw i)
    | rejected j => exact .of_quiet (keeps_reject (fun _ _ => thrifty.latch _ _) i j)
    | timedOut =>
      apply Spends.behind (.of_own fun _ => rfl)
      intro now
      dsimp only
      split
      · rename_i act filtered
        exact again act (Option.filter_eq_some_iff.mp filtered).1
      · exact .of_quiet (.failFrom _ _)

theorem Thrifty.fetchWithin (deadline : Option Float) (left count : Nat) :
    Spends P Q ((left + 1) * a) ((left + 1) * b) (s.fetchWithin fetch deadline left count) := by
  induction left generalizing count with
  | zero =>
    rw [Nat.zero_add, Nat.one_mul, Nat.one_mul]
    exact thrifty.fetchOnce (c := 0) (d := 0) deadline count (by simp)
  | succ left ih =>
    rw [Nat.succ_mul _ a, Nat.succ_mul _ b, Nat.add_comm _ a, Nat.add_comm _ b]
    apply thrifty.fetchOnce
    rintro act ⟨⟩
    exact ih (count + 1)

theorem Thrifty.lead (deadline : Option Float) :
    Spends P Q ((s.spare + 1) * a) ((s.spare + 1) * b) (s.lead fetch deadline) := by
  apply Spends.behind (.of_own fun _ => rfl)
  intro cell
  apply Spends.behind (.of_modifyOwn fun _ => thrifty.cell _ _)
  intro _
  apply Spends.before (thrifty.fetchWithin deadline s.spare 0).attempt
  intro outcome
  refine .bind (.of_own fun _ => rfl) fun now => ?_
  exact .bind (.of_modifyOwn fun _ => thrifty.cell _ _) fun _ => .settle outcome

theorem Thrifty.get (timeout : Option Number) :
    Spends P Q ((s.spare + 1) * a) ((s.spare + 1) * b) (s.get fetch timeout) := by
  apply Spends.behind keeps_checkLatch
  intro _
  apply Spends.behind (keeps_deadline timeout)
  intro deadline
  apply Spends.behind (.of_own fun _ => rfl)
  intro cell
  apply Spends.behind (.of_own fun _ => rfl)
  intro now
  cases cell.arrive s.ttl now with
  | served value => exact .of_quiet (.pure value)
  | joins flight => exact .of_quiet (.fail _)
  | leads => exact thrifty.lead deadline
  | unjudged => exact .of_quiet (.fail _)

end CloudSession.Supplier
