import CloudSession.World
import Mathlib.Order.Defs.Unbundled

/-! # What acts keep

A relation between what was before and what comes after holds over a whole act, however it ends, as
soon as it holds over each of its parts.
-/

namespace CloudSession

/-- Two states have the same part. -/
def Alike {σ β : Type} (part : σ → β) (s t : σ) : Prop := part t = part s

instance {σ β : Type} (part : σ → β) : IsPreorder σ (Alike part) where
  refl _ := rfl
  trans _ _ _ first second := Eq.trans second first

theorem Alike.symm {σ β : Type} {part : σ → β} {s t : σ} (alike : Alike part s t) :
    Alike part t s :=
  Eq.symm alike

/-- From one state to another what was clear stays clear. -/
abbrev Retains {σ : Type} (clear : σ → Prop) (s t : σ) : Prop := clear s → clear t

instance {σ : Type} (clear : σ → Prop) : IsPreorder σ (Retains clear) where
  refl _ := id
  trans _ _ _ first second := second ∘ first

/-- Two worlds whose states are related. -/
def OnOwn {σ : Type} (R : σ → σ → Prop) (w w' : World σ) : Prop := R w.own w'.own

instance {σ : Type} (R : σ → σ → Prop) [IsPreorder σ R] : IsPreorder (World σ) (OnOwn R) where
  refl w := refl_of R w.own
  trans _ _ _ first second := trans_of R first second

/-- A relation that does not mind what is entered in the log. -/
def LogFree {σ : Type} (R : World σ → World σ → Prop) : Prop := ∀ w log, R w { w with log := log }

theorem LogFree.onOwn {σ : Type} {R : σ → σ → Prop} [IsPreorder σ R] : LogFree (OnOwn R) :=
  fun w _ => refl_of R w.own

namespace Act

variable {σ α β : Type}

/-! ## Worlds -/

section

variable {R : World σ → World σ → Prop} {act : Act σ α}

/-- From every world an act leads to one that is related to it. -/
def Leads (R : World σ → World σ → Prop) (act : Act σ α) : Prop := ∀ w, R w (act.play w).2

theorem Leads.attempt (leads : Leads R act) : Leads R (Act.attempt act) := leads

variable [IsPreorder (World σ) R]

theorem Leads.of_same (same : ∀ w, (act.play w).2 = w) : Leads R act := by
  intro w
  rw [same]
  exact refl_of R w

theorem Leads.pure (a : α) : Leads R (Pure.pure a : Act σ α) := .of_same fun _ => rfl

theorem Leads.throw (i : FaultId) : Leads R (throw i : Act σ α) := .of_same fun _ => rfl

/-- The second of two acts matters where the first one ended well. -/
theorem Leads.bindFrom {next : α → Act σ β} {w : World σ} (first : R w (act.play w).2)
    (second : ∀ a w', act.play w = (.ok a, w') → R w' ((next a).play w').2) :
    R w ((act >>= next).play w).2 := by
  cases played : act.play w with
  | mk outcome later =>
    rw [played] at first
    cases outcome with
    | error i =>
      rw [play_bind_of_error played]
      exact first
    | ok a =>
      rw [play_bind_of_ok played]
      exact trans_of R first (second a later played)

/-- What lies behind the first of two acts. -/
theorem Leads.behind {next : α → Act σ β} (second : ∀ a, Leads R (next a)) (w : World σ) :
    R (act.play w).2 ((act >>= next).play w).2 := by
  cases played : act.play w with
  | mk outcome later =>
    cases outcome with
    | error i =>
      rw [play_bind_of_error played]
      exact refl_of R later
    | ok a =>
      rw [play_bind_of_ok played]
      exact second a later

theorem Leads.bind {next : α → Act σ β} (first : Leads R act) (second : ∀ a, Leads R (next a)) :
    Leads R (act >>= next) :=
  fun w => bindFrom (first w) fun a w' _ => second a w'

theorem Leads.settle (outcome : Except FaultId α) : Leads R (Act.settle outcome) := by
  cases outcome with
  | ok a => exact .pure a
  | error i => exact .throw i

theorem Leads.forM {actions : List β} {each : β → Act σ Unit}
    (leads : ∀ b ∈ actions, Leads R (each b)) : Leads R (actions.forM each) := by
  induction actions with
  | nil => exact .pure ()
  | cons b actions ih =>
    have rest := ih fun b within => leads b (List.mem_cons_of_mem _ within)
    exact .bind (leads b List.mem_cons_self) fun _ => rest

variable (logs : LogFree R)

include logs

omit [IsPreorder (World σ) R] in
theorem Leads.fail (head : FaultHead) : Leads R (Act.fail head : Act σ α) := fun w => logs w _

omit [IsPreorder (World σ) R] in
theorem Leads.failWhile (handled i : FaultId) : Leads R (Act.failWhile handled i : Act σ α) :=
  fun w => logs w _

omit [IsPreorder (World σ) R] in
theorem Leads.plan (p : FaultPlan) : Leads R (Act.plan p : Act σ FaultId) := fun w => logs w _

omit [IsPreorder (World σ) R] in
/-- A nap that is refused is no more than a fault. -/
theorem Leads.nap {seconds : Float}
    (naps : ∀ w, R w { w with naps := w.naps ++ [seconds], clock := w.clock + seconds }) :
    Leads R (Act.nap seconds : Act σ Unit) := by
  intro w
  cases refused : w.sleeper.refusal seconds with
  | none =>
    rw [play_nap_of_taken refused]
    exact naps w
  | some kind =>
    rw [play_nap_of_refused refused]
    exact logs w _

theorem Leads.demand (value : Option α) (kind : FaultKind) :
    Leads R (Act.demand value kind : Act σ α) := by
  cases value with
  | some a => exact .pure a
  | none => exact .fail logs _

theorem Leads.grant (value : Except FaultHead α) : Leads R (Act.grant value : Act σ α) := by
  cases value with
  | ok a => exact .pure a
  | error head => exact .fail logs head

theorem Leads.andFinally {last : Act σ Unit} (first : Leads R act) (second : Leads R last) :
    Leads R (act.andFinally last) := by
  refine .bind first.attempt fun result => .bind second.attempt fun ended => ?_
  cases ended with
  | ok _ => exact .settle result
  | error j =>
    cases result with
    | ok _ => exact .throw j
    | error i => exact .failWhile logs i j

end

/-! ## States -/

variable {R : σ → σ → Prop} {act : Act σ α}

/-- From every world an act leads to a state that is related to the one before. -/
def Keeps (R : σ → σ → Prop) (act : Act σ α) : Prop := ∀ w, R w.own (act.play w).2.own

theorem Keeps.of_modifyOwn {f : σ → σ} (related : ∀ s, R s (f s)) : Keeps R (modifyOwn f) :=
  fun w => related w.own

theorem Keeps.mono {R' : σ → σ → Prop} (keeps : Keeps R act) (related : ∀ s t, R s t → R' s t) :
    Keeps R' act :=
  fun w => related _ _ (keeps w)

theorem Keeps.attempt (keeps : Keeps R act) : Keeps R (Act.attempt act) := keeps

variable [IsPreorder σ R]

theorem Keeps.of_own (same : ∀ w, (act.play w).2.own = w.own) : Keeps R act := by
  intro w
  rw [same]
  exact refl_of R w.own

theorem Keeps.pure (a : α) : Keeps R (Pure.pure a : Act σ α) := Leads.pure (R := OnOwn R) a

theorem Keeps.throw (i : FaultId) : Keeps R (throw i : Act σ α) := Leads.throw (R := OnOwn R) i

/-- The second of two acts matters where the first one ended well. -/
theorem trans_bind {next : α → Act σ β} {w : World σ} (first : R w.own (act.play w).2.own)
    (second : ∀ a, Keeps R (next a)) : R w.own ((act >>= next).play w).2.own :=
  Leads.bindFrom (R := OnOwn R) first fun a w' _ => second a w'

theorem Keeps.bind {next : α → Act σ β} (first : Keeps R act) (second : ∀ a, Keeps R (next a)) :
    Keeps R (act >>= next) :=
  Leads.bind (R := OnOwn R) first second

theorem Keeps.settle (outcome : Except FaultId α) : Keeps R (Act.settle outcome) :=
  Leads.settle (R := OnOwn R) outcome

theorem Keeps.fail (head : FaultHead) : Keeps R (Act.fail head : Act σ α) :=
  Leads.fail (R := OnOwn R) .onOwn head

theorem Keeps.failWhile (handled i : FaultId) : Keeps R (Act.failWhile handled i : Act σ α) :=
  Leads.failWhile (R := OnOwn R) .onOwn handled i

theorem Keeps.failFrom (head : FaultHead) (cause : FaultId) :
    Keeps R (Act.failFrom head cause : Act σ α) :=
  .of_own fun _ => rfl

theorem Keeps.plan (p : FaultPlan) : Keeps R (Act.plan p : Act σ FaultId) :=
  Leads.plan (R := OnOwn R) .onOwn p

theorem Keeps.nap (seconds : Float) : Keeps R (Act.nap seconds : Act σ Unit) :=
  Leads.nap (R := OnOwn R) .onOwn fun w => refl_of R w.own

theorem Keeps.demand (value : Option α) (kind : FaultKind) :
    Keeps R (Act.demand value kind : Act σ α) :=
  Leads.demand (R := OnOwn R) .onOwn value kind

theorem Keeps.grant (value : Except FaultHead α) : Keeps R (Act.grant value : Act σ α) :=
  Leads.grant (R := OnOwn R) .onOwn value

theorem Keeps.andFinally {last : Act σ Unit} (first : Keeps R act) (second : Keeps R last) :
    Keeps R (act.andFinally last) :=
  Leads.andFinally (R := OnOwn R) .onOwn first second

theorem Keeps.forM {actions : List β} {each : β → Act σ Unit} (keeps : ∀ b, Keeps R (each b)) :
    Keeps R (actions.forM each) :=
  Leads.forM (R := OnOwn R) fun b _ => keeps b

end Act

end CloudSession
