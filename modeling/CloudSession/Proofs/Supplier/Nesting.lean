import CloudSession.Proofs.Supplier.Alone
import CloudSession.Proofs.Supplier.Finality

/-! # The latch is final for nested calls

The suppliers of a network whose fetches ask one another to any depth, when the calls do not come
between one another's steps.
-/

namespace CloudSession

open Act

namespace Network

variable {net : Network} {ask : Asking} {m : Member} {i : Nat}

/-- From `before` to `after` a latch that is set holds what it held, and a fetch is called only
while its latch is not set. -/
structure Onward (net : Network) (before after : Pool) : Prop where
  latches : ∀ k fault, (before.latches k).fault = some fault →
    (after.latches k).fault = some fault
  takeoffs : ∃ recent, after.takeoffs = recent ++ before.takeoffs ∧ ∀ takeoff ∈ recent,
    takeoff.latched = none ∧
      ∀ m, net[takeoff.supplier]? = some m → (before.latches m.latch).fault = none

theorem Onward.of_same {before after : Pool} (latches : after.latches = before.latches)
    (takeoffs : after.takeoffs = before.takeoffs) : net.Onward before after where
  latches k fault set := by rw [latches, set]
  takeoffs := ⟨[], takeoffs, by simp⟩

theorem Onward.trans {p q r : Pool} (first : net.Onward p q) (second : net.Onward q r) :
    net.Onward p r where
  latches k fault set := second.latches k fault (first.latches k fault set)
  takeoffs := by
    obtain ⟨earlier, added, before⟩ := first.takeoffs
    obtain ⟨later, added', after⟩ := second.takeoffs
    refine ⟨later ++ earlier, by rw [added', added, List.append_assoc], ?_⟩
    intro takeoff member
    rcases List.mem_append.mp member with late | early
    · refine ⟨(after takeoff late).1, fun m here => ?_⟩
      -- A latch that was not set later was not set before.
      cases held : (p.latches m.latch).fault with
      | none => rfl
      | some fault =>
        have unset := (after takeoff late).2 m here
        rw [first.latches _ _ held] at unset
        cases unset
    · exact before takeoff early

instance : IsPreorder Pool net.Onward where
  refl _ := .of_same rfl rfl
  trans _ _ _ := .trans

/-- Trying to set a latch is no step back. -/
theorem onward_trySet (k : Nat) (fault : FaultId) (p : Pool) :
    net.Onward p ((Pool.latch k).write (((Pool.latch k).read p).trySet fault).2 p) where
  latches k' held set := by
    simp only [Pool.latch]
    by_cases own : k' = k
    · subst own
      rw [setAt_self, Latch.fault_trySet_of_set set]
    · rw [setAt_of_ne _ own, set]
  takeoffs := ⟨[], rfl, by simp⟩

theorem keeps_trySet (net : Network) (i : Nat) (plan : FaultPlan) :
    Keeps net.Onward (net.trySet i plan) := by
  refine .bind (.plan plan) fun fault => ?_
  split
  · rename_i m here
    exact fun w => onward_trySet m.latch fault w.own
  · exact .pure false

theorem keeps_invalidate (net : Network) (i : Nat) : Keeps net.Onward (net.invalidate i) := by
  unfold invalidate
  split
  · exact .of_modifyOwn fun _ => .of_same rfl rfl
  · exact .pure ()

theorem keeps_act (asks : ∀ j timeout, Keeps net.Onward (ask j timeout)) (action : Action) :
    Keeps net.Onward (net.act ask action) := by
  cases action with
  | get j timeout =>
    refine .bind (asks j timeout).attempt fun outcome => .bind ?_ fun _ => .pure _
    exact .of_modifyOwn fun _ => .of_same rfl rfl
  | invalidate j => exact .bind (keeps_invalidate net j) fun _ => .pure _
  | pass | setClock => exact .of_own fun _ => rfl
  | trySet j plan => exact .bind (keeps_trySet net j plan) fun first => .pure _

theorem keeps_acts (asks : ∀ j timeout, Keeps net.Onward (ask j timeout))
    (actions : List Action) : Keeps net.Onward (net.acts ask actions) :=
  .forM fun action => .bind (keeps_act asks action) fun _ => .pure ()

theorem keeps_wrapped (net : Network) (wrapping : Option Wrapping)
    (outcome : Except FaultId Value) : Keeps net.Onward (wrapped wrapping outcome) := by
  cases outcome with
  | ok value => exact .pure value
  | error i =>
    cases wrapping with
    | none => exact .throw i
    | some wrapping =>
      refine .bind (.of_own fun _ => rfl) fun fails => ?_
      cases fails with
      | false => exact .throw i
      | true =>
        cases wrapping with
        | explains plan =>
          exact .bind (.plan plan) fun j => .bind (.of_own fun _ => rfl) fun _ => .failWhile i j
        | follows plan => exact .bind (.plan plan) fun j => .failWhile i j

theorem keeps_takeTurn (net : Network) (i : Nat) : Keeps net.Onward (Pool.takeTurn i) := by
  refine .bind (.of_own fun _ => rfl) fun p => ?_
  split
  · exact .pure none
  · exact .bind (.of_modifyOwn fun _ => .of_same rfl rfl) fun _ => .pure _

/-- A call of the fetch of a supplier whose latch is not set. -/
theorem onward_fetch (asks : ∀ j timeout, Keeps net.Onward (ask j timeout))
    (here : net[i]? = some m) {w : World Pool} (unset : (w.own.latches m.latch).fault = none) :
    net.Onward w.own ((net.fetch ask m i).play w).2.own := by
  refine trans_bind ?_ fun _ => ?_
  · refine ⟨fun k fault set => set, [⟨i, (w.own.latches m.latch).fault⟩], rfl, ?_⟩
    intro takeoff member
    obtain rfl := List.mem_singleton.mp member
    refine ⟨unset, ?_⟩
    intro m' here'
    rw [here] at here'
    cases here'
    exact unset
  · split
    · rename_i j wrapping source
      exact .bind (asks j none).attempt fun outcome => keeps_wrapped net wrapping outcome
    · refine .bind (keeps_takeTurn net i) fun turn => ?_
      cases turn with
      | none => exact .fail _
      | some turn =>
        refine .bind (keeps_acts asks turn.during) fun _ => ?_
        cases turn.landing with
        | value v => exact .pure v
        | fault plan => exact .bind (.plan plan) fun j => .throw j
        | known fault => exact .throw fault

/-- What a supplier asks of the relation, given that those whom its fetch asks keep it. -/
theorem kept (asks : ∀ j timeout, Keeps net.Onward (ask j timeout)) (here : net[i]? = some m) :
    (m.supplier i).Kept net.Onward (net.fetch ask m i) where
  cell _ _ := .of_same rfl rfl
  latch := onward_trySet m.latch
  fetch _ unset := onward_fetch asks here unset

theorem keeps_get (net : Network) (depth i : Nat) (timeout : Option Number) :
    Keeps net.Onward (net.get depth i timeout) := by
  induction depth generalizing i timeout with
  | zero => exact .fail _
  | succ depth ih =>
    rw [get]
    split
    · rename_i m here
      exact (kept ih here).get timeout
    · exact .fail _

/-- Once a latch is set it holds the same fault for good. (1) While calls do not come between one
another's steps, and fetches ask other suppliers to any depth, a latch that is set stays as it is,
and no fetch ever takes off while its latch is set; (2) whoever asks then, at whatever depth, and
whoever is about to make another attempt, ends with that fault, and nothing else happens. (3) With
many callers at every supplier, any of whom may come between a look at the latch and the call that
follows it, whatever the fetches do, it stays as it is as well, whoever calls from then on is turned
away with that fault, and nobody who looks at it from then on calls the fetch: the only calls yet to
be made are those that leaders were about to make, one each. -/
theorem latch_final {α : Type} (net : Network) :
    (∀ depth actions w, net.Onward w.own ((net.acts (net.get depth) actions).play w).2.own) ∧
    (∀ depth i m w fault, net[i]? = some m → (w.own.latches m.latch).fault = some fault →
      (∀ timeout, (net.get (depth + 1) i timeout).play w = (.error fault, w)) ∧
        ∀ fetch deadline left count,
          ((m.supplier i).fetchWithin fetch deadline left count).play w = (.error fault, w)) ∧
    ∀ (a : Airspace α) k fault incidents, (a.latches k).fault = some fault →
      let later := a.run net incidents
      (later.latches k).fault = some fault ∧
        ∀ i m, net[i]? = some m → m.latch = k →
          (a.desks i).Stilled fault (later.desks i) ∧
            ∀ name timeout,
              ((later.step net (.event i (.call name timeout))).desks i).stage?
                (later.desks i).callers.length = some (.done (.error fault)) := by
  refine ⟨?_, ?_, ?_⟩
  · intro depth actions
    exact keeps_acts (keeps_get net depth) actions
  · intro depth i m w fault here set
    refine ⟨?_, fun _ => Supplier.play_fetchWithin_of_set set⟩
    intro timeout
    rw [get, here]
    exact Supplier.play_get_of_set set timeout
  · intro a k fault incidents set later
    have still := Airspace.fault_run net set incidents
    refine ⟨still, ?_⟩
    rintro i m here rfl
    refine ⟨Airspace.stilled_run here set incidents, ?_⟩
    intro name timeout
    simp only [Airspace.step, here, Airspace.put, setAt_self]
    exact Traffic.stage?_call_of_set (t := later.traffic m i) still name timeout

/-- Two suppliers under one latch, the second of which asks the first. -/
def leaseOverSession : Network :=
  [⟨⟨"session", some (.whole 60), 2⟩, 0, .script⟩, ⟨⟨"lease", some (.whole 60), 1⟩, 0,
    .supplier 0 none⟩]

/-- Under a latch that is set both suppliers turn away whoever asks. A leader who had looked at the
latch just before somebody else set it makes his call and no other; one who was inside a call is
not let make another. -/
theorem latch_final_between_attempts :
    let w : World Pool := { clock := 0, own := { latches := fun _ => ⟨some 5⟩ } }
    let a := ({ clock := 0 } : Airspace Nat).run leaseOverSession [.event 0 (.call "first" none),
      .event 0 (.go 0), .event 0 (.go 0), .event 1 (.trySetKnown 5)]
    let called := a.run leaseOverSession [.event 0 (.go 0), .event 0 (.go 0)]
    let later := called.run leaseOverSession [.event 0 (.land 0 (.fault (.ofKind .timeout))),
      .event 0 (.go 0), .event 0 (.go 0), .event 1 (.call "second" none)]
    (leaseOverSession.get 2 1 none).play w = (.error 5, w) ∧
      (a.latches 0).fault = some 5 ∧ (a.desks 0).calls = 0 ∧ (a.desks 0).poised = 1 ∧
      (called.desks 0).calls + (called.desks 0).poised = 1 ∧ (called.desks 0).calls = 1 ∧
      (later.latches 0).fault = some 5 ∧
      (later.desks 0).calls + (later.desks 0).poised = (called.desks 0).calls ∧
      (later.desks 0).stage? 0 = some (.done (.error 5)) ∧
      (later.desks 1).stage? 0 = some (.done (.error 5)) :=
  ⟨((latch_final (α := Nat) _).2.1 1 1 _ _ 5 rfl rfl).1 none, rfl, rfl, rfl,
    (((latch_final _).2.2 _ 0 5 _ rfl).2 0 _ rfl rfl).1.calls, rfl,
    ((latch_final _).2.2 _ 0 5 _ rfl).1,
    (((latch_final _).2.2 _ 0 5 _ rfl).2 0 _ rfl rfl).1.calls, rfl, rfl⟩

end Network

end CloudSession
