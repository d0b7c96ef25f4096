import CloudSession.Proofs.Fault.Redaction
import CloudSession.World

/-! # Acts that run alike

Two acts are paired when from worlds that look the same they end alike, in worlds that look the same
again. That holds over acts in a row as soon as it holds over each. What looks the same is up to a
relation between states; the clock, the naps and who takes them are the same, and so are the faults
but for what headers hold.
-/

namespace CloudSession

variable {σ α β γ δ : Type}

structure World.Twin (S : σ → σ → Prop) (w v : World σ) : Prop where
  clock : w.clock = v.clock
  sleeper : w.sleeper = v.sleeper
  naps : w.naps = v.naps
  log : w.log.redacted = v.log.redacted
  own : S w.own v.own

/-- A part that states which look the same have in common, up to a relation. -/
structure Slot.Paired (S : σ → σ → Prop) (V : α → α → Prop) (slot : Slot σ α) : Prop where
  read : ∀ {s t}, S s t → V (slot.read s) (slot.read t)
  write : ∀ {s t a b}, S s t → V a b → S (slot.write a s) (slot.write b t)

namespace Act

variable {S : σ → σ → Prop} {V : α → β → Prop} {U : γ → δ → Prop}

/-- Two plays that ended alike, with values that are related or with the same fault. -/
inductive Agree (S : σ → σ → Prop) (V : α → β → Prop) :
    Except FaultId α × World σ → Except FaultId β × World σ → Prop where
  | ok {a : α} {b : β} {w v : World σ} : V a b → w.Twin S v → Agree S V (.ok a, w) (.ok b, v)
  | error {i : FaultId} {w v : World σ} : w.Twin S v → Agree S V (.error i, w) (.error i, v)

def Paired (S : σ → σ → Prop) (V : α → β → Prop) (act : Act σ α) (other : Act σ β) : Prop :=
  ∀ w v, w.Twin S v → Agree S V (act.play w) (other.play v)

theorem Agree.twin {played : Except FaultId α × World σ} {other : Except FaultId β × World σ}
    (agree : Agree S V played other) : played.2.Twin S other.2 := by
  cases agree with
  | ok _ twin => exact twin
  | error twin => exact twin

theorem Agree.outcome {played other : Except FaultId α × World σ}
    (agree : Agree S (· = ·) played other) : played.1 = other.1 := by
  cases agree with
  | ok same => rw [same]
  | error => rfl

namespace Paired

theorem pure {a : α} {b : β} (related : V a b) :
    Paired S V (Pure.pure a : Act σ α) (Pure.pure b : Act σ β) :=
  fun _ _ twin => .ok related twin

theorem throw (i : FaultId) : Paired S V (throw i : Act σ α) (throw i : Act σ β) :=
  fun _ _ twin => .error twin

theorem bind {act : Act σ α} {other : Act σ β} {next : α → Act σ γ} {next' : β → Act σ δ}
    (first : Paired S V act other) (second : ∀ a b, V a b → Paired S U (next a) (next' b)) :
    Paired S U (act >>= next) (other >>= next') := by
  intro w v twin
  have agree := first w v twin
  rw [play_bind, play_bind]
  generalize act.play w = played at agree ⊢
  generalize other.play v = played' at agree ⊢
  cases agree with
  | ok related twin => exact second _ _ related _ _ twin
  | error twin => exact .error twin

/-- Where the first acts end with the same value, it is enough to look at what follows that. -/
theorem bindEq {act other : Act σ α} {next : α → Act σ γ} {next' : α → Act σ δ}
    (first : Paired S (· = ·) act other) (second : ∀ a, Paired S U (next a) (next' a)) :
    Paired S U (act >>= next) (other >>= next') := by
  apply first.bind
  rintro a _ rfl
  exact second a

theorem attempt {act other : Act σ α} (paired : Paired S (· = ·) act other) :
    Paired S (· = ·) (Act.attempt act) (Act.attempt other) := by
  intro w v twin
  have agree := paired w v twin
  exact .ok agree.outcome agree.twin

theorem settle (outcome : Except FaultId α) :
    Paired S (· = ·) (Act.settle outcome) (Act.settle outcome) := by
  cases outcome with
  | ok a => exact .pure rfl
  | error i => exact .throw i

theorem now : Paired S (· = ·) (Act.now : Act σ Float) Act.now :=
  fun _ _ twin => .ok twin.clock twin

theorem log : Paired S (·.redacted = ·.redacted) (Act.log : Act σ FaultLog) Act.log :=
  fun _ _ twin => .ok twin.log twin

theorem is (sort : FaultKind → Bool) (i : FaultId) :
    Paired S (· = ·) (Act.is sort i : Act σ Bool) (Act.is sort i) := by
  intro w v twin
  refine .ok ?_ twin
  rw [← FaultLog.is_redacted, twin.log, FaultLog.is_redacted]

theorem pass (seconds : Float) :
    Paired S (· = ·) (Act.pass seconds : Act σ Unit) (Act.pass seconds) :=
  fun _ _ twin => .ok rfl { twin with clock := congrArg (· + seconds) twin.clock }

theorem plan (p : FaultPlan) : Paired S (· = ·) (Act.plan p : Act σ FaultId) (Act.plan p) := by
  intro w v twin
  obtain ⟨same, log⟩ := FaultLog.redacted_make_eq twin.log p
  exact .ok same { twin with log := log }

theorem failPlan (p : FaultPlan) : Paired S V (Act.failPlan p : Act σ α) (Act.failPlan p) :=
  (plan p).bindEq fun i => .throw i

theorem note {fault fault' : Fault} (alike : fault.redacted = fault'.redacted) :
    Paired S (· = ·) (Act.note fault : Act σ FaultId) (Act.note fault') := by
  intro w v twin
  obtain ⟨same, log⟩ := FaultLog.redacted_add_eq twin.log alike
  exact .ok same { twin with log := log }

theorem failAlike {head head' : FaultHead} (alike : head.redacted = head'.redacted) :
    Paired S V (Act.fail head : Act σ α) (Act.fail head' : Act σ β) := by
  refine (note ?_).bindEq fun i => .throw i
  simp only [Fault.redacted, alike]

theorem fail (head : FaultHead) : Paired S V (Act.fail head : Act σ α) (Act.fail head : Act σ β) :=
  failAlike rfl

theorem failWhile (handled i : FaultId) :
    Paired S V (Act.failWhile handled i : Act σ α) (Act.failWhile handled i : Act σ β) := by
  intro w v twin
  refine .error { twin with log := ?_ }
  show (w.log.arise i handled).redacted = (v.log.arise i handled).redacted
  rw [FaultLog.redacted_arise, FaultLog.redacted_arise, twin.log]

theorem failFrom (head : FaultHead) (cause : FaultId) :
    Paired S V (Act.failFrom head cause : Act σ α) (Act.failFrom head cause : Act σ β) :=
  (note rfl).bindEq fun i => failWhile cause i

theorem failKindWhile (handled : FaultId) (kind : FaultKind) :
    Paired S V (Act.failKindWhile handled kind : Act σ α) (Act.failKindWhile handled kind) :=
  (note rfl).bindEq fun i => failWhile handled i

theorem nap (seconds : Float) :
    Paired S (· = ·) (Act.nap seconds : Act σ Unit) (Act.nap seconds) := by
  intro w v twin
  cases refused : w.sleeper.refusal seconds with
  | none =>
    rw [play_nap_of_taken refused, play_nap_of_taken (twin.sleeper ▸ refused)]
    exact .ok rfl { twin with
      clock := congrArg (· + seconds) twin.clock
      naps := congrArg (· ++ [seconds]) twin.naps }
  | some kind =>
    rw [play_nap_of_refused refused, play_nap_of_refused (twin.sleeper ▸ refused)]
    exact fail _ w v twin

theorem demand (value : Option α) (kind : FaultKind) :
    Paired S (· = ·) (Act.demand value kind : Act σ α) (Act.demand value kind) := by
  cases value with
  | some a => exact .pure rfl
  | none => exact .fail _

/-- What follows a demand may rely on what was there. -/
theorem bindDemand {value : Option α} {kind : FaultKind} {next : α → Act σ γ}
    {next' : α → Act σ δ} (second : ∀ a, value = some a → Paired S U (next a) (next' a)) :
    Paired S U (Act.demand value kind >>= next) (Act.demand value kind >>= next') := by
  cases value with
  | some a => exact second a rfl
  | none => exact bind (V := fun _ _ => False) (fail _) fun _ _ never => never.elim

theorem grant (value : Except FaultHead α) :
    Paired S (· = ·) (Act.grant value : Act σ α) (Act.grant value) := by
  cases value with
  | ok a => exact .pure rfl
  | error head => exact .fail head

theorem andFinally {act other : Act σ α} {last last' : Act σ Unit}
    (first : Paired S (· = ·) act other) (second : Paired S (· = ·) last last') :
    Paired S (· = ·) (act.andFinally last) (other.andFinally last') := by
  apply first.attempt.bindEq
  intro result
  apply second.attempt.bindEq
  intro ended
  cases ended with
  | ok _ => exact .settle result
  | error j =>
    cases result with
    | ok _ => exact .throw j
    | error i => exact .failWhile i j

end Paired

end Act

namespace Slot.Paired

open Act

variable {S : σ → σ → Prop} {V : α → α → Prop} {slot : Slot σ α} (paired : slot.Paired S V)

include paired

theorem fetch : Act.Paired S V slot.fetch slot.fetch :=
  fun _ _ twin => .ok (paired.read twin.own) twin

theorem store {a b : α} (related : V a b) : Act.Paired S (· = ·) (slot.store a) (slot.store b) :=
  fun _ _ twin => .ok rfl { twin with own := paired.write twin.own related }

theorem change {f : α → α} (related : ∀ a b, V a b → V (f a) (f b)) :
    Act.Paired S (· = ·) (slot.change f) (slot.change f) :=
  fun _ _ twin => .ok rfl
    { twin with own := paired.write twin.own (related _ _ (paired.read twin.own)) }

end Slot.Paired

end CloudSession
