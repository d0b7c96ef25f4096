import CloudSession.Proofs.Fault.Chain
import Mathlib.Data.Finset.Card

/-! # Walking a chain that may run in a circle

The walk along a chain keeps in mind which faults it has met, and a fault it has met before ends it.
It comes to an end, as each turn leaves fewer faults that are new. Where it ends without a rejection
there is none: the faults it has met lead to no others.
-/

namespace CloudSession.FaultLog

/-- The fault a number of links down a chain. A link is the cause of a fault if it has one, and else
the fault it arose from. -/
inductive Along (log : FaultLog) : (links : Nat) → FaultId → FaultId → Prop where
  | here {i : FaultId} : Along log 0 i i
  | cause {links : Nat} {i next j : FaultId} {fault : Fault} : log.get? i = some fault →
    fault.cause = some next → Along log links next j → Along log (links + 1) i j
  | context {links : Nat} {i next j : FaultId} {fault : Fault} : log.get? i = some fault →
    fault.cause = none → fault.context = some next → Along log links next j →
    Along log (links + 1) i j

/-- The walk from a fault with those it has met before, the turns it takes and what it finds. -/
inductive Walks (log : FaultLog) :
    (turns : Nat) → (seen : List FaultId) → FaultId → Option FaultId → Prop where
  | again {seen : List FaultId} {i : FaultId} : i ∈ seen → Walks log 0 seen i none
  | found {seen : List FaultId} {i : FaultId} : i ∉ seen →
    log.is FaultKind.isAuthorization i = true → Walks log 1 seen i (some i)
  | last {seen : List FaultId} {i : FaultId} : i ∉ seen →
    log.is FaultKind.isAuthorization i = false → log.next i = none → Walks log 1 seen i none
  | on {turns : Nat} {seen : List FaultId} {i next : FaultId} {found : Option FaultId} : i ∉ seen →
    log.is FaultKind.isAuthorization i = false → log.next i = some next →
    Walks log turns (i :: seen) next found → Walks log (turns + 1) seen i found

variable {log : FaultLog} {i j k : FaultId} {links turns : Nat} {seen : List FaultId}
  {found : Option FaultId}

/-! ## Links -/

theorem next_of_cause {fault : Fault} (known : log.get? i = some fault)
    (cause : fault.cause = some j) : log.next i = some j := by
  simp [next, known, cause]

theorem next_of_context {fault : Fault} (known : log.get? i = some fault)
    (uncaused : fault.cause = none) (context : fault.context = some j) : log.next i = some j := by
  simp [next, known, uncaused, context]

theorem along_succ_iff :
    log.Along (links + 1) i j ↔ ∃ next, log.next i = some next ∧ log.Along links next j := by
  constructor
  · intro along
    cases along with
    | cause known cause rest => exact ⟨_, next_of_cause known cause, rest⟩
    | context known uncaused context rest =>
      exact ⟨_, next_of_context known uncaused context, rest⟩
  · rintro ⟨next, linked, rest⟩
    obtain ⟨fault, known, link⟩ := Option.bind_eq_some_iff.mp linked
    cases cause : fault.cause with
    | some own =>
      rw [cause] at link
      cases link
      exact .cause known cause rest
    | none =>
      rw [cause] at link
      exact .context known cause link rest

theorem leads_iff_along : log.Leads i j ↔ ∃ links, log.Along links i j := by
  constructor
  · intro leads
    induction leads using Relation.ReflTransGen.head_induction_on with
    | refl => exact ⟨0, .here⟩
    | head linked _ ih =>
      obtain ⟨links, rest⟩ := ih
      exact ⟨links + 1, along_succ_iff.mpr ⟨_, linked, rest⟩⟩
  · rintro ⟨links, along⟩
    induction along with
    | here => exact .refl
    | cause known cause _ ih => exact .head (next_of_cause known cause) ih
    | context known uncaused context _ ih =>
      exact .head (next_of_context known uncaused context) ih

/-- A fault is the first rejection of a chain exactly if it rejects the credential and none before
it does. -/
theorem rejects_iff_along :
    log.Rejects links i j ↔ log.Along links i j ∧ log.is FaultKind.isAuthorization j = true ∧
      ∀ fewer < links, ∀ k, log.Along fewer i k → log.is FaultKind.isAuthorization k = false := by
  induction links generalizing i with
  | zero =>
    constructor
    · rintro (own | _)
      exact ⟨.here, own, by simp⟩
    · rintro ⟨⟨⟩, own, -⟩
      exact .here own
  | succ links ih =>
    constructor
    · rintro (_ | ⟨not_own, linked, rest⟩)
      obtain ⟨along, rejects, before⟩ := ih.mp rest
      refine ⟨along_succ_iff.mpr ⟨_, linked, along⟩, rejects, ?_⟩
      intro fewer nearer k along
      cases fewer with
      | zero =>
        cases along
        exact not_own
      | succ fewer =>
        obtain ⟨next, linked', along⟩ := along_succ_iff.mp along
        rw [linked] at linked'
        cases linked'
        exact before fewer (by omega) k along
    · rintro ⟨along, rejects, before⟩
      obtain ⟨next, linked, rest⟩ := along_succ_iff.mp along
      apply Rejects.there (before 0 (by omega) i .here) linked
      apply ih.mpr
      refine ⟨rest, rejects, fun fewer nearer k along => ?_⟩
      exact before (fewer + 1) (by omega) k (along_succ_iff.mpr ⟨_, linked, along⟩)

theorem not_hides_iff_along : ¬ log.Hides i ↔
    ∀ links k, log.Along links i k → log.is FaultKind.isAuthorization k = false := by
  simp only [Hides, leads_iff_along]
  grind

/-! ## The walk -/

/-- The faults met so far reject nothing, and lead to each other or to the fault at hand. -/
def Closed (log : FaultLog) (seen : List FaultId) (i : FaultId) : Prop :=
  ∀ k ∈ seen, log.is FaultKind.isAuthorization k = false ∧
    ∃ next, log.next k = some next ∧ (next = i ∨ next ∈ seen)

theorem Closed.cons (closed : log.Closed seen i)
    (not_own : log.is FaultKind.isAuthorization i = false) (linked : log.next i = some j) :
    log.Closed (i :: seen) j := by
  intro k member
  rcases List.mem_cons.mp member with rfl | member
  · exact ⟨not_own, j, linked, .inl rfl⟩
  · obtain ⟨not_own, next, linked, within⟩ := closed k member
    refine ⟨not_own, next, linked, .inr ?_⟩
    rcases within with rfl | within
    · exact List.mem_cons_self
    · exact List.mem_cons_of_mem _ within

/-- A circle of faults that were all met hides nothing. -/
theorem Closed.honest (closed : log.Closed seen i) (again : i ∈ seen) : ¬ log.Hides i := by
  rintro ⟨j, leads, rejects⟩
  have met : j ∈ seen := by
    clear rejects
    induction leads with
    | refl => exact again
    | tail _ linked ih =>
      obtain ⟨-, next, linked', within⟩ := closed _ ih
      rw [linked] at linked'
      cases linked'
      rcases within with rfl | within
      · exact again
      · exact within
  rw [(closed j met).1] at rejects
  cases rejects

theorem Walks.rejects (walks : log.Walks turns seen i (some j)) :
    ∃ links, log.Rejects links i j := by
  generalize finds : some j = found at walks
  induction walks with
  | again => cases finds
  | last => cases finds
  | found _ own =>
    cases finds
    exact ⟨0, .here own⟩
  | on _ not_own linked _ ih =>
    obtain ⟨links, rest⟩ := ih finds
    exact ⟨links + 1, .there not_own linked rest⟩

theorem Walks.honest (walks : log.Walks turns seen i none) (closed : log.Closed seen i) :
    ¬ log.Hides i := by
  generalize finds : none = found at walks
  induction walks with
  | again again => exact closed.honest again
  | found => cases finds
  | last _ not_own ends =>
    rintro ⟨j, leads, rejects⟩
    rcases leads.cases_head with rfl | ⟨next, linked, -⟩
    · rw [not_own] at rejects
      cases rejects
    · rw [ends] at linked
      cases linked
  | on _ not_own linked _ ih =>
    rintro ⟨j, leads, rejects⟩
    rcases leads.cases_head with rfl | ⟨next, linked', leads⟩
    · rw [not_own] at rejects
      cases rejects
    · rw [linked] at linked'
      cases linked'
      exact ih (closed.cons not_own linked) finds ⟨j, leads, rejects⟩

/-- Whatever the walk finds is what there is to find. -/
theorem Walks.eq_rejection? (walks : log.Walks turns [] i found) : found = log.rejection? i := by
  cases found with
  | some j => exact (rejection?_eq_some_iff.mpr walks.rejects).symm
  | none =>
    have closed : log.Closed [] i := by simp [Closed]
    exact (rejection?_eq_none_iff.mpr (walks.honest closed)).symm

/-- The faults of the log that have not been met. -/
def unseen (log : FaultLog) (seen : List FaultId) : Finset FaultId :=
  (Finset.range log.size).filter (· ∉ seen)

theorem card_unseen_cons (known : i < log.size) (fresh : i ∉ seen) :
    (log.unseen (i :: seen)).card + 1 = (log.unseen seen).card := by
  have without : log.unseen (i :: seen) = (log.unseen seen).erase i := by
    ext k
    simp [unseen]
    grind
  rw [without, Finset.card_erase_add_one]
  simp [unseen, known, fresh]

/-- The walk comes to an end. Each turn meets a fault that was not met before, and only the last one
may meet a fault that is in no log. -/
theorem exists_walks (log : FaultLog) (seen : List FaultId) (i : FaultId) :
    ∃ turns ≤ (log.unseen seen).card + 1, ∃ found, log.Walks turns seen i found := by
  by_cases met : i ∈ seen
  · exact ⟨0, by omega, none, .again met⟩
  cases own : log.is FaultKind.isAuthorization i with
  | true => exact ⟨1, by omega, some i, .found met own⟩
  | false =>
    cases linked : log.next i with
    | none => exact ⟨1, by omega, none, .last met own linked⟩
    | some next =>
      have fewer := card_unseen_cons (lt_size_of_next linked) met
      obtain ⟨turns, few, found, walks⟩ := exists_walks log (i :: seen) next
      exact ⟨turns + 1, by omega, found, .on met own linked walks⟩
termination_by (log.unseen seen).card

/-- Whatever the faults and however they are linked, the walk from any of them ends, after no more
turns than there are faults, and one. It finds the first rejection down the chain, and it finds none
exactly if the chain has none, though it stops where the chain first comes back to a fault. -/
theorem walk_finds_first (log : FaultLog) (start : FaultId) :
    (∃ turns ≤ log.size + 1, log.Walks turns [] start (log.rejection? start)) ∧
    (∀ turns found, log.Walks turns [] start found → found = log.rejection? start) ∧
    (∀ j, log.rejection? start = some j ↔ ∃ links, log.Along links start j ∧
      log.is FaultKind.isAuthorization j = true ∧
      ∀ fewer < links, ∀ k, log.Along fewer start k →
        log.is FaultKind.isAuthorization k = false) ∧
    (log.rejection? start = none ↔ ∀ links k, log.Along links start k →
      log.is FaultKind.isAuthorization k = false) := by
  refine ⟨?_, fun _ _ walks => walks.eq_rejection?, fun j => ?_, ?_⟩
  · obtain ⟨turns, few, found, walks⟩ := exists_walks log [] start
    have all : (log.unseen []).card = log.size := by simp [unseen]
    exact ⟨turns, by omega, walks.eq_rejection? ▸ walks⟩
  · simp only [rejection?_eq_some_iff, rejects_iff_along]
  · rw [rejection?_eq_none_iff, not_hides_iff_along]

end CloudSession.FaultLog
