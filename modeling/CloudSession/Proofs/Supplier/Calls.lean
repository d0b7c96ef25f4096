import CloudSession.Proofs.Supplier.Step

/-! # Calls of a fetch

Calls are numbered in the order they are made, so that no two of them have one number and at most
one leader is inside a call. Whoever says that a call ends therefore says whose call it is.
-/

namespace CloudSession

variable {α : Type} {ttl : Option Number}

namespace Chronicle

variable {c : Chronicle α} {f g : FlightId} {n : Nat}

/-- Calls bear the numbers from zero on. -/
def Numbered : Chronicle α → Prop
  | [] => True
  | .called _ n :: c => n = calls c ∧ Numbered c
  | _ :: c => Numbered c

theorem calls_cons_le (h : Happening α) (c : Chronicle α) : c.calls ≤ calls (h :: c) :=
  (List.sublist_cons_self h c).countP_le

theorem Numbered.of_cons {h : Happening α} (numbered : Numbered (h :: c)) : c.Numbered := by
  cases h with
  | called => exact numbered.2
  | _ => exact numbered

theorem Numbered.lt_calls (numbered : c.Numbered) (called : .called f n ∈ c) : n < c.calls := by
  induction c with
  | nil => cases called
  | cons h c ih =>
    rcases List.mem_cons.mp called with rfl | before
    · obtain ⟨rfl, -⟩ := numbered
      rw [calls_called]
      exact Nat.lt_succ_self _
    · exact Nat.lt_of_lt_of_le (ih numbered.of_cons before) (calls_cons_le h c)

/-- One number, one call. -/
theorem Numbered.unique (numbered : c.Numbered) (first : .called f n ∈ c)
    (second : .called g n ∈ c) : f = g := by
  induction c with
  | nil => cases first
  | cons h c ih =>
    have rest := numbered.of_cons
    rcases List.mem_cons.mp first with now | firstIn <;>
      rcases List.mem_cons.mp second with now' | secondIn
    · cases now.trans now'.symm
      rfl
    · subst now
      have late := rest.lt_calls secondIn
      have latest := numbered.1
      omega
    · subst now'
      have late := rest.lt_calls firstIn
      have latest := numbered.1
      omega
    · exact ih rest firstIn secondIn

end Chronicle

open Chronicle

/-- The desk keeps account of the calls of its fetch. -/
structure Desk.Accounts (d : Desk α) : Prop where
  numbered : d.chronicle.Numbered
  /-- A call that a leader is inside was entered for his flight. -/
  inside : ∀ i call ticket count deadline,
    d.stage? i = some (.fetching call ticket count deadline) →
      .called ticket.flight call ∈ d.chronicle

namespace Desk.Accounts

variable {d d' : Desk α} {latch : Latch} {i : Nat}

theorem start : ({} : Desk α).Accounts where
  numbered := trivial
  inside i call ticket count deadline at_stage := by simp [stage?] at at_stage

/-- Nothing but a call changes the account, as long as nobody comes to be inside one. -/
theorem setStage (accounts : d.Accounts) {before after : Stage α}
    (at_stage : d.stage? i = some before)
    (outside : ∀ call ticket count deadline, after ≠ .fetching call ticket count deadline) :
    (d.setStage i after).Accounts := by
  refine ⟨accounts.numbered, ?_⟩
  intro j call ticket count deadline there
  rw [stage?_setStage at_stage] at there
  split at there
  · exact absurd (Option.some.inj there) (outside call ticket count deadline)
  · exact accounts.inside j call ticket count deadline there

theorem record (accounts : d.Accounts) {h : Happening α} (quiet : h.isCall = false) :
    (d.record h).Accounts := by
  refine ⟨?_, ?_⟩
  · cases h with
    | called => cases quiet
    | _ => exact accounts.numbered
  · intro j call ticket count deadline there
    exact List.mem_cons_of_mem h (accounts.inside j call ticket count deadline there)

theorem forget (accounts : d.Accounts) : d.forget.Accounts :=
  record (d := { d with cell := d.cell.invalidate }) ⟨accounts.numbered, accounts.inside⟩ rfl

theorem callFetch (accounts : d.Accounts) (order : d.Orderly ttl) {ticket : Ticket} {count : Nat}
    {deadline : Option Float} (at_stage : d.stage? i = some (.calling ticket count deadline)) :
    (d.callFetch i ticket count deadline).Accounts := by
  refine ⟨⟨order.calls, accounts.numbered⟩, ?_⟩
  intro j call ticket' count' deadline' there
  have here : (d.callFetch i ticket count deadline).stage? j =
      if j = i then some (.fetching d.calls ticket count deadline) else d.stage? j :=
    stage?_setStage at_stage _ j
  rw [here] at there
  split at there
  · cases there
    exact List.mem_cons_self
  · exact List.mem_cons_of_mem _ (accounts.inside j call ticket' count' deadline' there)

end Desk.Accounts

/-- What a move leaves of the account. A desk that differs in its cell and its endings alone has
the same stages and the same chronicle. -/
theorem Desk.Move.accounts {latch : Latch} {d d' : Desk α} (move : Move ttl latch d d')
    (order : d.Orderly ttl) (accounts : d.Accounts) : d'.Accounts := by
  cases move with
  | rest => exact accounts
  | @welcome stage name newcomer =>
    refine ⟨accounts.numbered, ?_⟩
    intro j call ticket count deadline there
    rw [stage?_welcome] at there
    split at there
    · cases there
      cases newcomer
    · exact accounts.inside j call ticket count deadline there
  | refuse _ at_stage | turnBack _ at_stage | passLatch _ at_stage | retry at_stage
  | finish _ at_stage | wake at_stage =>
    exact accounts.setStage at_stage (by simp)
  | serve at_stage | join at_stage | giveUp _ at_stage =>
    exact (accounts.setStage at_stage (by simp)).record rfl
  | @launch i deadline at_stage =>
    have next : ({ d with cell := d.cell.launch } : Desk α).Accounts :=
      ⟨accounts.numbered, accounts.inside⟩
    exact (next.setStage (i := i) at_stage (by simp)).record rfl
  | callFetch at_stage => exact accounts.callFetch order at_stage
  | @touchDown i ticket outcome now at_stage =>
    have next : ({ d with
        cell := d.cell.land ticket now outcome.toOption
        endings := (ticket.flight, outcome) :: d.endings } : Desk α).Accounts :=
      ⟨accounts.numbered, accounts.inside⟩
    exact (next.setStage (i := i) at_stage (by simp)).record rfl

/-- At most one leader is inside a call. -/
theorem Desk.Accounts.leader_unique {d : Desk α} (accounts : d.Accounts) (order : d.Orderly ttl)
    {i j call : Nat} {ticket ticket' : Ticket} {count count' : Nat}
    {deadline deadline' : Option Float}
    (first : d.stage? i = some (.fetching call ticket count deadline))
    (second : d.stage? j = some (.fetching call ticket' count' deadline')) : i = j := by
  have same : ticket.flight = ticket'.flight :=
    accounts.numbered.unique (accounts.inside _ _ _ _ _ first) (accounts.inside _ _ _ _ _ second)
  have launched := (order.leads first rfl).launched
  rw [same] at launched
  exact order.lawful.launcher_unique launched (order.leads second rfl).launched

namespace Traffic

variable {t : Traffic α} {m : Manner}

theorem accounts_step (m : Manner) (order : t.Orderly m.ttl) (accounts : t.Accounts)
    (event : Event α) : (t.step m event).2.Accounts := by
  cases event with
  | invalidate => exact accounts.forget
  | _ => exact (move_step m t (by simp)).accounts order accounts

theorem accounts_run (m : Manner) (order : t.Orderly m.ttl) (accounts : t.Accounts)
    (events : List (Event α)) : (t.run m events).Accounts := by
  induction events generalizing t with
  | nil => exact accounts
  | cons event events ih =>
    exact ih (orderly_step m order event) (accounts_step m order accounts event)

theorem Reachable.accounts (reach : t.Reachable m) : t.Accounts := by
  obtain ⟨clock, log, latch, events, rfl⟩ := reach
  exact accounts_run m Desk.Orderly.start Desk.Accounts.start events

/-- Whoever is inside a call is the one who leaves it when it ends. -/
theorem leader?_of_fetching (order : t.Orderly m.ttl) (accounts : t.Accounts) {i call : Nat}
    {ticket : Ticket} {count : Nat} {deadline : Option Float}
    (at_stage : t.stage? i = some (.fetching call ticket count deadline)) :
    t.leader? call = some (i, ticket, count, deadline) := by
  cases found : t.leader? call with
  | some leader =>
    obtain ⟨j, ticket', count', deadline'⟩ := leader
    have there := stage?_of_leader? found
    obtain rfl := accounts.leader_unique order at_stage there
    rw [at_stage] at there
    cases there
    rfl
  | none =>
    obtain ⟨caller, here, inside⟩ := Option.map_eq_some_iff.mp at_stage
    have nobody := List.findSome?_eq_none_iff.mp found (caller, i)
      (List.mem_zipIdx_iff_getElem?.mpr here)
    simp [inside] at nobody

end Traffic

end CloudSession
