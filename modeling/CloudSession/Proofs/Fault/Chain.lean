import CloudSession.Supplier.Verdict
import Mathlib.Data.List.Perm.Subperm
import Mathlib.Logic.Relation

/-! # The first rejection on a chain

The walk along a chain of faults stops after as many steps as there are faults. Nothing is missed
that way: until the first rejection is met no fault comes twice, as the links that follow a fault
are always the same.
-/

namespace CloudSession.FaultLog

/-- The chain from a fault leads to another one. -/
def Leads (log : FaultLog) : FaultId → FaultId → Prop :=
  Relation.ReflTransGen fun i j => log.next i = some j

/-- A fault of the chain rejects the credential. -/
def Hides (log : FaultLog) (i : FaultId) : Prop :=
  ∃ j, log.Leads i j ∧ log.is FaultKind.isAuthorization j

/-- The first rejection on the chain from `i` is `j`, some links down. -/
inductive Rejects (log : FaultLog) : (links : Nat) → FaultId → FaultId → Prop where
  | here {i : FaultId} : log.is FaultKind.isAuthorization i = true → Rejects log 0 i i
  | there {links : Nat} {i next j : FaultId} : log.is FaultKind.isAuthorization i = false →
    log.next i = some next → Rejects log links next j → Rejects log (links + 1) i j

variable {log : FaultLog} {i j k : FaultId} {links links' steps : Nat}

@[simp]
theorem kind?_cutContext (log : FaultLog) (target : FaultId) (fuel : Nat) (i j : FaultId) :
    (log.cutContext target fuel i).kind? j = log.kind? j := by
  induction fuel generalizing i with
  | zero => rfl
  | succ fuel ih =>
    rw [cutContext]
    split
    · rfl
    · split
      · exact kind?_setContext log i j none
      · exact ih _

/-- What a fault arose from says nothing of what it is. -/
@[simp]
theorem kind?_arise (log : FaultLog) (i handled j : FaultId) :
    (log.arise i handled).kind? j = log.kind? j := by
  unfold arise
  split
  · rfl
  · rw [kind?_setContext, kind?_cutContext]

theorem exists_get?_setContext {fault : Fault} (known : log.get? j = some fault) (i : FaultId)
    (context : Option FaultId) :
    ∃ own, (log.setContext i context).get? j = some { fault with context := own } := by
  have here : log.faults[j]? = some fault := known
  rw [setContext, get?, Array.getElem?_modify, here]
  by_cases own : i = j
  · exact ⟨context, if_pos own⟩
  · exact ⟨fault.context, if_neg own⟩

theorem exists_get?_cutContext {fault : Fault} (known : log.get? j = some fault)
    (target : FaultId) (fuel : Nat) (i : FaultId) :
    ∃ own, (log.cutContext target fuel i).get? j = some { fault with context := own } := by
  induction fuel generalizing i with
  | zero => exact ⟨fault.context, known⟩
  | succ fuel ih =>
    rw [cutContext]
    split
    · exact ⟨fault.context, known⟩
    · split
      · exact exists_get?_setContext known i none
      · exact ih _

/-- Whatever else a fault tells is still told when it is known what some fault arose from. -/
theorem exists_get?_arise {fault : Fault} (known : log.get? j = some fault) (i handled : FaultId) :
    ∃ own, (log.arise i handled).get? j = some { fault with context := own } := by
  unfold arise
  split
  · exact ⟨fault.context, known⟩
  · obtain ⟨own, still⟩ := exists_get?_cutContext known i log.size handled
    exact exists_get?_setContext still i (some handled)

theorem exists_kind_of_is {sort : FaultKind → Bool} (known : log.is sort i = true) :
    ∃ kind, log.kind? i = some kind ∧ sort kind = true :=
  (Option.any_eq_true sort _).mp known

theorem is_authorization_iff :
    log.is FaultKind.isAuthorization i = true ↔ log.kind? i = some (.problem .authorization) := by
  constructor
  · intro own
    obtain ⟨kind, known, authorization⟩ := exists_kind_of_is own
    rw [known, beq_iff_eq.mp authorization]
  · intro kind
    rw [is, kind]
    rfl

theorem lt_size_of_is {sort : FaultKind → Bool} (known : log.is sort i = true) : i < log.size := by
  obtain ⟨kind, own, -⟩ := exists_kind_of_is known
  obtain ⟨fault, here, -⟩ := Option.map_eq_some_iff.mp own
  exact (Array.getElem?_eq_some_iff.mp here).1

theorem lt_size_of_next (linked : log.next i = some j) : i < log.size := by
  cases here : log.get? i with
  | none => simp [next, here] at linked
  | some fault => exact (Array.getElem?_eq_some_iff.mp here).1

namespace Rejects

theorem rejects (first : log.Rejects links i j) : log.is FaultKind.isAuthorization j = true := by
  induction first with
  | here own => exact own
  | there _ _ _ ih => exact ih

theorem leads (first : log.Rejects links i j) : log.Leads i j := by
  induction first with
  | here => exact .refl
  | there _ linked _ ih => exact .head linked ih

/-- There is one first rejection, and one way to it. -/
theorem unique (first : log.Rejects links i j) (other : log.Rejects links' i k) :
    links = links' ∧ j = k := by
  induction first generalizing links' with
  | here own =>
    cases other with
    | here => exact ⟨rfl, rfl⟩
    | there not_own => simp [own] at not_own
  | there not_own linked _ ih =>
    cases other with
    | here own => simp [own] at not_own
    | there _ linked' rest =>
      rw [linked] at linked'
      cases linked'
      obtain ⟨rfl, rfl⟩ := ih rest
      exact ⟨rfl, rfl⟩

/-- The faults on the way to the first rejection are known and come once each, as none of them is
as far from it as another. -/
theorem exists_path (first : log.Rejects links i j) : ∃ path : List FaultId,
    path.length = links + 1 ∧ path.Nodup ∧
      ∀ k ∈ path, k < log.size ∧ ∃ fewer ≤ links, log.Rejects fewer k j := by
  induction first with
  | @here i own =>
    refine ⟨[i], rfl, by simp, ?_⟩
    intro k member
    obtain rfl := List.mem_singleton.mp member
    exact ⟨lt_size_of_is own, 0, Nat.le_refl 0, .here own⟩
  | @there links i next j not_own linked rest ih =>
    obtain ⟨path, length, once, within⟩ := ih
    have first : log.Rejects (links + 1) i j := .there not_own linked rest
    refine ⟨i :: path, by simp [length], ?_, ?_⟩
    · apply List.nodup_cons.mpr
      refine ⟨fun member => ?_, once⟩
      obtain ⟨-, fewer, at_most, nearer⟩ := within i member
      obtain ⟨same, -⟩ := first.unique nearer
      omega
    · intro k member
      rcases List.mem_cons.mp member with rfl | member
      · exact ⟨lt_size_of_next linked, links + 1, Nat.le_refl _, first⟩
      · obtain ⟨known, fewer, at_most, nearer⟩ := within k member
        exact ⟨known, fewer, by omega, nearer⟩

theorem lt_size (first : log.Rejects links i j) : links < log.size := by
  obtain ⟨path, length, once, within⟩ := first.exists_path
  have among : path ⊆ List.range log.size :=
    fun k member => List.mem_range.mpr (within k member).1
  have fits := (List.subperm_of_subset once among).length_le
  rw [length, List.length_range] at fits
  omega

theorem rejectionWithin (first : log.Rejects links i j) (enough : links < steps) :
    log.rejectionWithin steps i = some j := by
  induction first generalizing steps with
  | here own =>
    obtain ⟨steps, rfl⟩ := Nat.exists_eq_add_of_lt enough
    simp [FaultLog.rejectionWithin, own]
  | there not_own linked _ ih =>
    obtain ⟨fewer, rfl⟩ := Nat.exists_eq_add_of_lt enough
    simp only [FaultLog.rejectionWithin, not_own, linked]
    exact ih (by omega)

end Rejects

theorem rejects_of_rejectionWithin (found : log.rejectionWithin steps i = some j) :
    ∃ links, log.Rejects links i j := by
  induction steps generalizing i with
  | zero => simp [rejectionWithin] at found
  | succ steps ih =>
    rw [rejectionWithin] at found
    split at found
    · rename_i own
      cases found
      exact ⟨0, .here own⟩
    · rename_i not_own
      split at found
      · rename_i linked
        obtain ⟨links, rest⟩ := ih found
        exact ⟨links + 1, .there (Bool.eq_false_iff.mpr not_own) linked rest⟩
      · cases found

/-- The walk finds the first rejection of the chain, if there is one. -/
theorem rejection?_eq_some_iff : log.rejection? i = some j ↔ ∃ links, log.Rejects links i j := by
  constructor
  · exact rejects_of_rejectionWithin
  · rintro ⟨links, first⟩
    exact first.rejectionWithin first.lt_size

theorem Hides.exists_rejects (hides : log.Hides i) : ∃ links j, log.Rejects links i j := by
  obtain ⟨j, leads, own⟩ := hides
  induction leads using Relation.ReflTransGen.head_induction_on with
  | refl => exact ⟨0, j, .here own⟩
  | @head i next linked _ ih =>
    cases kind : log.is FaultKind.isAuthorization i with
    | true => exact ⟨0, i, .here kind⟩
    | false =>
      obtain ⟨links, k, rest⟩ := ih
      exact ⟨links + 1, k, .there kind linked rest⟩

/-- The walk finds nothing exactly where no fault of the chain rejects the credential. -/
theorem rejection?_eq_none_iff : log.rejection? i = none ↔ ¬ log.Hides i := by
  constructor
  · intro missed hides
    obtain ⟨links, j, first⟩ := hides.exists_rejects
    rw [rejection?_eq_some_iff.mpr ⟨links, first⟩] at missed
    cases missed
  · intro honest
    cases found : log.rejection? i with
    | none => rfl
    | some j =>
      obtain ⟨links, first⟩ := rejection?_eq_some_iff.mp found
      exact absurd ⟨j, first.leads, first.rejects⟩ honest

/-! ## Verdicts -/

/-- A fault of authorization is the rejection. -/
theorem verdict_of_authorization (kind : log.kind? i = some (.problem .authorization)) :
    log.verdict i = .rejected i := by
  have sort (sort : FaultKind → Bool) : log.is sort i = sort (.problem .authorization) := by
    rw [is, kind, Option.any_some]
  have first : log.Rejects 0 i i := .here (sort _)
  rw [verdict, sort, sort, sort, rejection?_eq_some_iff.mpr ⟨0, first⟩]
  rfl

/-- The report of a cache that gave up is handed on. -/
theorem verdict_of_report (report : log.kind? i = some (.problem .sessionTimeout)) :
    log.verdict i = .handOn := by
  simp [verdict, is, report]

/-- A rejection is a fault of authorization. -/
theorem kind?_of_verdict (rejected : log.verdict i = .rejected j) :
    log.kind? j = some (.problem .authorization) := by
  have found : log.rejection? i = some j := by
    unfold verdict at rejected
    grind
  obtain ⟨links, first⟩ := rejection?_eq_some_iff.mp found
  exact is_authorization_iff.mp first.rejects

/-- A failure that is no timeout is a rejection as soon as its chain hides one. -/
theorem verdict_of_rejects (first : log.Rejects links i j)
    (in_time : log.is FaultKind.isTimeout i = false)
    (failure : log.is FaultKind.isFailure i = true) : log.verdict i = .rejected j := by
  have report : log.is (· == .problem .sessionTimeout) i = false := by
    obtain ⟨kind, known, -⟩ := exists_kind_of_is failure
    simp only [is, known, Option.any_some] at in_time ⊢
    by_contra reported
    rw [Bool.not_eq_false, beq_iff_eq] at reported
    simp [reported, FaultKind.isTimeout] at in_time
  simp only [verdict, report, in_time, failure, rejection?_eq_some_iff.mpr ⟨links, first⟩,
    Bool.false_eq_true, if_false, if_true]

/-- Where the chain hides no rejection there is none. -/
theorem verdict_ne_rejected (honest : ¬ log.Hides i) (j : FaultId) :
    log.verdict i ≠ .rejected j := by
  rw [verdict, rejection?_eq_none_iff.mpr honest]
  grind

/-- A fault that no other attempt is worth: the report of a cache that gave up, or no timeout. -/
def IsFinal (log : FaultLog) (i : FaultId) : Prop :=
  log.kind? i = some (.problem .sessionTimeout) ∨ log.is FaultKind.isTimeout i = false

theorem verdict_eq_timedOut_iff : log.verdict i = .timedOut ↔ ¬ log.IsFinal i := by
  cases known : log.kind? i with
  | none => simp [verdict, IsFinal, is, known]
  | some kind =>
    by_cases report : kind = .problem .sessionTimeout
    · simp [verdict, IsFinal, is, known, report]
    · have other : (kind == .problem .sessionTimeout) = false := beq_false_of_ne report
      cases timeout : kind.isTimeout with
      | true => simp [verdict, IsFinal, is, known, other, timeout, report]
      | false =>
        simp only [verdict, IsFinal, is, known, other, timeout, Option.any_some]
        grind

end CloudSession.FaultLog
