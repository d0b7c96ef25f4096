import CloudSession.Proofs.Supplier.Attempts

/-! # Calls of a scripted fetch

What comes between the beginning and the end of such a call asks no supplier: time passes, caches
are told to forget, and somebody may set a latch to a rejection. So a call is one call, however long
it takes, and whatever latches hold behind it are rejections, as it was before.
-/

namespace CloudSession

open Act

namespace Action

/-- An action that asks no supplier, and sets a latch to a rejection only. -/
def IsPlain : Action → Prop
  | .get _ _ => False
  | .trySet _ plan => plan.kind = .problem .authorization
  | .invalidate _ | .pass _ | .setClock _ => True

/-- An action by which somebody tries to set a latch. -/
def Tries : Action → Prop
  | .trySet _ _ => True
  | .get _ _ | .invalidate _ | .pass _ | .setClock _ => False

end Action

theorem Pool.calls_congr {p q : Pool} (same : p.takeoffs = q.takeoffs) (i : Nat) :
    p.calls i = q.calls i := by
  rw [calls, same, calls]

namespace Network

variable {net : Network} {ask : Asking} {m : Member} {i j k : Nat} {still : Prop}

/-! ## What latches hold -/

/-- Whatever a latch holds is a rejection. -/
def HoldsRejections (w : World Pool) : Prop :=
  ∀ k fault, (w.own.latches k).fault = some fault →
    w.log.kind? fault = some (.problem .authorization)

theorem HoldsRejections.trySet {w : World Pool} (rejections : HoldsRejections w) {fault : FaultId}
    (rejection : w.log.kind? fault = some (.problem .authorization)) (k : Nat) :
    HoldsRejections { w with
      own := (Pool.latch k).write (((Pool.latch k).read w.own).trySet fault).2 w.own } := by
  intro k' held set
  by_cases own : k' = k
  · subst own
    simp only [Pool.latch, setAt_self, Latch.fault_trySet, Option.some.injEq] at set
    cases before : (w.own.latches k').fault with
    | none =>
      rw [before] at set
      exact set ▸ rejection
    | some old =>
      rw [before] at set
      exact set ▸ rejections k' old before
  · simp only [Pool.latch, setAt_of_ne _ own] at set
    exact rejections k' held set

theorem HoldsRejections.reject {v : World Pool} (rejections : HoldsRejections v) {first : FaultId}
    (rejection : v.log.kind? first = some (.problem .authorization)) (m : Member) (i : Nat)
    (fault : FaultId) : HoldsRejections ((m.supplier i).rejectedWorld fault first v) := by
  intro k held set
  have known := rejections.trySet rejection m.latch k held set
  exact (FaultLog.kind?_arise _ _ _ _).trans known

theorem fault_rejectedWorld (m : Member) (i : Nat) (fault first : FaultId) (v : World Pool) :
    (((m.supplier i).rejectedWorld fault first v).own.latches m.latch).fault =
      some ((v.own.latches m.latch).fault.getD first) := by
  simp [Supplier.rejectedWorld, Member.supplier, Pool.latch]

theorem latches_rejectedWorld_of_ne {m : Member} (other : k ≠ m.latch) (i : Nat)
    (fault first : FaultId) (v : World Pool) :
    ((m.supplier i).rejectedWorld fault first v).own.latches k = v.own.latches k :=
  setAt_of_ne _ other _

theorem HoldsRejections.failFrom {v : World Pool} (rejections : HoldsRejections v)
    (head : FaultHead) (cause : FaultId) :
    HoldsRejections ((Act.failFrom head cause : Act Pool Value).play v).2 := by
  rw [play_failFrom]
  intro k held set
  have known :=
    FaultLog.kind?_add_of_known (rejections k held set) { head with cause := some cause }
  exact (FaultLog.kind?_arise _ _ _ _).trans known

/-! ## Calls -/

/-- From one world to another no fetch was called, nothing was added to the scripts, latches hold
rejections if they did, and if all is to keep still they hold what they held. -/
structure Calm (still : Prop) (w w' : World Pool) : Prop where
  takeoffs : w'.own.takeoffs = w.own.takeoffs
  scripts : ∀ j, ∀ turn ∈ w'.own.scripts j, turn ∈ w.own.scripts j
  latches : HoldsRejections w → HoldsRejections w'
  same : still → w'.own.latches = w.own.latches

theorem Calm.of_own {w w' : World Pool} (own : w'.own = w.own)
    (known : ∀ i kind, w.log.kind? i = some kind → w'.log.kind? i = some kind) :
    Calm still w w' where
  takeoffs := congrArg _ own
  scripts j turn within := by rwa [own] at within
  latches rejections k fault set := by
    rw [own] at set
    exact known _ _ (rejections k fault set)
  same _ := congrArg _ own

instance : IsPreorder (World Pool) (Calm still) where
  refl _ := .of_own rfl fun _ _ known => known
  trans _ _ _ first second := {
    takeoffs := second.takeoffs.trans first.takeoffs
    scripts := fun j turn within => first.scripts j turn (second.scripts j turn within)
    latches := second.latches ∘ first.latches
    same := fun all => (second.same all).trans (first.same all) }

theorem calm_plan (plan : FaultPlan) : Leads (Calm still) (Act.plan plan : Act Pool FaultId) :=
  fun _ => .of_own rfl fun _ _ known => FaultLog.kind?_make_of_known known plan

theorem calm_act {action : Action} (plain : action.IsPlain) (all_still : still → ¬ action.Tries) :
    Leads (Calm still) (net.act ask action) := by
  cases action with
  | get j timeout => exact plain.elim
  | invalidate j =>
    refine .bind ?_ fun _ => .pure _
    intro w
    unfold invalidate
    split
    · exact ⟨rfl, fun _ _ => id, id, fun _ => rfl⟩
    · exact refl_of _ w
  | pass seconds => exact fun w => .of_own rfl fun _ _ => id
  | setClock time => exact fun w => .of_own rfl fun _ _ => id
  | trySet j plan =>
    refine .bind ?_ fun _ => .pure _
    intro w
    have planned : Calm still w { w with log := (w.log.make plan).1 } := calm_plan plan w
    rw [trySet, play_bind_of_ok (play_plan plan w)]
    split
    · rename_i m here
      refine ⟨rfl, fun _ _ => id, ?_, fun all => absurd trivial (all_still all)⟩
      intro rejections
      have rejection : (w.log.make plan).1.kind? (w.log.make plan).2 =
          some (.problem .authorization) :=
        (w.log.kind?_make plan).trans (congrArg some plain)
      exact (planned.latches rejections).trySet rejection m.latch
    · exact planned

theorem calm_acts {actions : List Action} (plain : ∀ action ∈ actions, action.IsPlain)
    (all_still : still → ∀ action ∈ actions, ¬ action.Tries) :
    Leads (Calm still) (net.acts ask actions) := by
  refine .forM fun action within => .bind ?_ fun _ => .pure ()
  exact calm_act (plain action within) fun all => all_still all action within

/-- The scripted turns of a supplier leave all as calm as they are to. -/
def Scripted (still : Prop) (i : Nat) (w : World Pool) : Prop :=
  ∀ turn ∈ w.own.scripts i, ∀ action ∈ turn.during, action.IsPlain ∧ (still → ¬ action.Tries)

theorem calm_takeTurn (i : Nat) : Leads (Calm still) (Pool.takeTurn i) := by
  intro w
  have looked : (Act.own : Act Pool Pool).play w = (.ok w.own, w) := rfl
  rw [Pool.takeTurn, play_bind_of_ok looked]
  cases left : w.own.scripts i with
  | nil => exact refl_of _ w
  | cons turn rest =>
    refine ⟨rfl, ?_, id, fun _ => rfl⟩
    intro j turn' within
    change turn' ∈ setAt w.own.scripts i rest j at within
    by_cases own : j = i
    · subst own
      rw [setAt_self] at within
      rw [left]
      exact List.mem_cons_of_mem turn within
    · rwa [setAt_of_ne _ own] at within

theorem mem_of_play_takeTurn {turn : Turn} {w w' : World Pool}
    (taken : (Pool.takeTurn i).play w = (.ok (some turn), w')) : turn ∈ w.own.scripts i := by
  obtain ⟨own, _, looked, taken⟩ := exists_of_play_bind taken
  cases looked
  cases left : w.own.scripts i with
  | nil =>
    rw [left] at taken
    cases taken
  | cons first rest =>
    rw [left] at taken
    cases taken
    exact List.mem_cons_self

/-- The world behind the take-off of a call. -/
def takenOff (m : Member) (i : Nat) (w : World Pool) : World Pool :=
  { w with own := { w.own with
      takeoffs := ⟨i, (w.own.latches m.latch).fault⟩ :: w.own.takeoffs } }

theorem calm_fetch_of_script (source : m.source = .script) {w : World Pool}
    (scripted : Scripted still i w) :
    Calm still (takenOff m i w) ((net.fetch ask m i).play w).2 := by
  have took_off : (Pool.takeOff i m.latch).play w = (.ok (), takenOff m i w) := rfl
  rw [fetch, play_bind_of_ok took_off]
  simp only [source]
  refine Leads.bindFrom (calm_takeTurn i _) fun taken w' turned => ?_
  cases taken with
  | none => exact .of_own rfl fun _ _ known => FaultLog.kind?_add_of_known known _
  | some turn =>
    have within : turn ∈ (takenOff m i w).own.scripts i := mem_of_play_takeTurn turned
    refine Leads.bind (calm_acts ?_ ?_) (fun _ => ?_) w'
    · exact fun action taken => (scripted turn within action taken).1
    · exact fun all action taken => (scripted turn within action taken).2 all
    · cases turn.landing with
      | value v => exact .pure v
      | fault plan => exact .bind (calm_plan plan) fun i => .throw i
      | known fault => exact .throw fault

theorem play_fetch_of_next (source : m.source = .supplier j none) (w : World Pool) :
    (net.fetch ask m i).play w = (ask j none).play (takenOff m i w) := by
  have took_off : (Pool.takeOff i m.latch).play w = (.ok (), takenOff m i w) := rfl
  rw [fetch, play_bind_of_ok took_off]
  simp only [source]
  rw [play_bind_of_ok (play_attempt _ _)]
  cases ended : (ask j none).play (takenOff m i w) with
  | mk outcome w' => cases outcome <;> rfl

theorem calls_takenOff (m : Member) (i j : Nat) (w : World Pool) :
    (takenOff m i w).own.calls j = w.own.calls j + if j = i then 1 else 0 := by
  by_cases own : j = i
  · simp [Pool.calls, takenOff, own]
  · simp [Pool.calls, takenOff, own, Ne.symm own]

/-- The world in which the last link comes to another attempt. -/
structure Attempted (still : Prop) (i count : Nat) (w v : World Pool) : Prop where
  scripted : Scripted still i v
  latches : HoldsRejections v
  calls : ∀ j, v.own.calls j = w.own.calls j + if j = i then count else 0
  same : still → v.own.latches = w.own.latches

theorem attempted_before {f : (m.supplier i).Flight} (source : m.source = .script)
    (scripted : Scripted still i f.called) (rejections : HoldsRejections f.called) (count : Nat) :
    Attempted still i count f.called (f.before (net.fetch ask m i) count) := by
  induction count with
  | zero =>
    have nothing_yet (j : Nat) : (if j = i then 0 else 0) = 0 := ite_self 0
    exact ⟨scripted, rejections, fun j => by rw [nothing_yet]; rfl, fun _ => rfl⟩
  | succ count ih =>
    have calm : Calm still (takenOff m i (f.before (net.fetch ask m i) count))
        (f.before (net.fetch ask m i) (count + 1)) := calm_fetch_of_script source ih.scripted
    refine ⟨fun turn within => ih.scripted turn (calm.scripts i turn within),
      calm.latches ih.latches, fun j => ?_, fun all => (calm.same all).trans (ih.same all)⟩
    rw [Pool.calls_congr calm.takeoffs, calls_takenOff, ih.calls]
    split <;> omega

end Network

end CloudSession
