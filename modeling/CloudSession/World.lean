import CloudSession.Fault
import CloudSession.Number

/-! # The world an operation runs in

A clock, the naps taken so far and who takes them, the log of faults, and whatever state the
operations at hand keep. An operation is an `Act`: it runs in the world and ends with a value or
with a fault. What an act has done to the world stays done when it ends with a fault.
-/

namespace CloudSession

namespace Nap

/-- The longest nap, the last number of seconds whose nanoseconds fit into 63 bits. -/
def longest : Float := 9223372036.854774

/-- From no seconds at all to the longest nap. -/
def isUsual (x : Float) : Bool :=
  (Number.whole 0).le (.real x) && (Number.real x).le (.real longest)

end Nap

/-- Who takes naps. A nap that is not a usual one may be refused with a fault of a kind. -/
structure Sleeper where
  refusal : Float → Option FaultKind
  takes : ∀ x, Nap.isUsual x = true → refusal x = none

/-- Takes the usual naps and no others. Too many seconds either way do not even fit into a count of
nanoseconds. -/
def Sleeper.system : Sleeper where
  refusal x :=
    if Nap.isUsual x then none
    else if (Number.real Nap.longest).lt (.real x) ||
        (Number.real x).lt (.real (-9223372036.854776)) then some .overflow
    else some .value
  takes _ fits := if_pos fits

structure World (σ : Type) where
  clock : Float
  sleeper : Sleeper := .system
  naps : List Float := []
  log : FaultLog := {}
  own : σ

abbrev Act (σ α : Type) := ExceptT FaultId (StateM (World σ)) α

namespace Act

variable {σ α : Type}

def play (act : Act σ α) (w : World σ) : Except FaultId α × World σ := act.run.run w

/-- An act whose fault is its value. -/
def attempt (act : Act σ α) : Act σ (Except FaultId α) := ExceptT.lift act.run

/-- End as an attempt ended. -/
def settle : Except FaultId α → Act σ α
  | .ok a => pure a
  | .error i => throw i

def now : Act σ Float := return (← get).clock

/-- The state of the operations at hand. -/
def own : Act σ σ := return (← get).own

def modifyOwn (f : σ → σ) : Act σ Unit := modify fun w => { w with own := f w.own }

def log : Act σ FaultLog := return (← get).log

def modifyLog (f : FaultLog → FaultLog) : Act σ Unit := modify fun w => { w with log := f w.log }

def pass (seconds : Float) : Act σ Unit := modify fun w => { w with clock := w.clock + seconds }

/-- Enter a fault without ending on it. -/
def note (fault : Fault) : Act σ FaultId :=
  modifyGet fun w =>
    let (log, i) := w.log.add fault
    (i, { w with log := log })

def fail (head : FaultHead) : Act σ α := do throw (← note { head with })

/-- End on a new fault of a kind that says no more. -/
def failKind (kind : FaultKind) : Act σ α := fail { kind := kind }

/-- Enter the fault of a plan without ending on it. -/
def plan (p : FaultPlan) : Act σ FaultId :=
  modifyGet fun w =>
    let (log, i) := w.log.make p
    (i, { w with log := log })

def failPlan (p : FaultPlan) : Act σ α := do throw (← plan p)

/-- End on a known fault while `handled` is handled. -/
def failWhile (handled i : FaultId) : Act σ α := do
  modifyLog (·.arise i handled)
  throw i

/-- End on a new fault that `cause` explains. -/
def failFrom (head : FaultHead) (cause : FaultId) : Act σ α := do
  let i ← note { head with cause := some cause }
  failWhile cause i

/-- End on a new fault of a kind while `handled` is handled. -/
def failKindWhile (handled : FaultId) (kind : FaultKind) : Act σ α := do
  failWhile handled (← note { kind := kind })

/-- Nap, unless the nap is refused. -/
def nap (seconds : Float) : Act σ Unit := do
  match (← get).sleeper.refusal seconds with
  | some kind => failKind kind
  | none =>
    modify fun w => { w with naps := w.naps ++ [seconds] }
    pass seconds

/-- What is there, or else a fault of a kind. -/
def demand (value : Option α) (kind : FaultKind) : Act σ α :=
  match value with
  | some a => pure a
  | none => failKind kind

/-- What is granted, or else the fault that stands in its place. -/
def grant : Except FaultHead α → Act σ α
  | .ok a => pure a
  | .error head => fail head

def is (sort : FaultKind → Bool) (i : FaultId) : Act σ Bool := return (← log).is sort i

/-- Run `last` whatever becomes of `act`; a fault of `last` arises from that of `act`. -/
def andFinally (act : Act σ α) (last : Act σ Unit) : Act σ α := do
  let result ← attempt act
  match result, ← attempt last with
  | _, .ok _ => settle result
  | .ok _, .error j => throw j
  | .error i, .error j => failWhile i j

/-- A value leaves the world alone. -/
@[simp]
theorem play_pure (a : α) (w : World σ) : (pure a : Act σ α).play w = (.ok a, w) := rfl

@[simp]
theorem play_throw (i : FaultId) (w : World σ) : (throw i : Act σ α).play w = (.error i, w) := rfl

/-- One act after another: the second runs in the world the first one left, unless that failed. -/
theorem play_bind {β : Type} (act : Act σ α) (next : α → Act σ β) (w : World σ) :
    (act >>= next).play w =
      match act.play w with
      | (.ok a, w) => (next a).play w
      | (.error i, w) => (.error i, w) := by
  show ((ExceptT.bindCont next (act.run.run w).1).run (act.run.run w).2) = _
  unfold play
  rcases act.run.run w with ⟨outcome, w⟩
  cases outcome <;> rfl

/-- An attempt ends well, with the outcome of its act as its value. -/
@[simp]
theorem play_attempt (act : Act σ α) (w : World σ) :
    (attempt act).play w = (.ok (act.play w).1, (act.play w).2) := rfl

@[simp]
theorem play_pass (seconds : Float) (w : World σ) :
    (pass seconds : Act σ Unit).play w = (.ok (), { w with clock := w.clock + seconds }) := rfl

@[simp]
theorem play_demand (a : α) (kind : FaultKind) (w : World σ) :
    (demand (some a) kind : Act σ α).play w = (.ok a, w) := rfl

@[simp]
theorem play_is (sort : FaultKind → Bool) (i : FaultId) (w : World σ) :
    (Act.is sort i : Act σ Bool).play w = (.ok (w.log.is sort i), w) := rfl

@[simp]
theorem play_plan (p : FaultPlan) (w : World σ) :
    (plan p : Act σ FaultId).play w =
      (.ok (w.log.make p).2, { w with log := (w.log.make p).1 }) := rfl

theorem play_nap_of_taken {seconds : Float} {w : World σ}
    (taken : w.sleeper.refusal seconds = none) : (nap seconds : Act σ Unit).play w =
      (.ok (), { w with naps := w.naps ++ [seconds], clock := w.clock + seconds }) := by
  show (match w.sleeper.refusal seconds with
    | some kind => failKind kind
    | none => do
      modify fun w => { w with naps := w.naps ++ [seconds] }
      pass seconds : Act σ Unit).play w = _
  rw [taken]
  rfl

theorem play_nap_of_refused {seconds : Float} {w : World σ} {kind : FaultKind}
    (refused : w.sleeper.refusal seconds = some kind) :
    (nap seconds : Act σ Unit).play w = (failKind kind : Act σ Unit).play w := by
  show (match w.sleeper.refusal seconds with
    | some kind => failKind kind
    | none => do
      modify fun w => { w with naps := w.naps ++ [seconds] }
      pass seconds : Act σ Unit).play w = _
  rw [refused]

/-- A fault that another one explains is a new fault. -/
theorem play_failFrom (head : FaultHead) (cause : FaultId) (w : World σ) :
    (failFrom head cause : Act σ α).play w = (.error w.log.size, { w with
      log := (w.log.add { head with cause := some cause }).1.arise w.log.size cause }) := rfl

theorem play_bind_of_ok {β : Type} {act : Act σ α} {next : α → Act σ β} {w w' : World σ} {a : α}
    (first : act.play w = (.ok a, w')) : (act >>= next).play w = (next a).play w' := by
  rw [play_bind, first]

theorem play_bind_of_error {β : Type} {act : Act σ α} {next : α → Act σ β} {w w' : World σ}
    {i : FaultId} (first : act.play w = (.error i, w')) :
    (act >>= next).play w = (.error i, w') := by
  rw [play_bind, first]

/-- An act that ended well went well step by step. -/
theorem exists_of_play_bind {β : Type} {act : Act σ α} {next : α → Act σ β} {w w' : World σ} {b : β}
    (ended : (act >>= next).play w = (.ok b, w')) :
    ∃ a between, act.play w = (.ok a, between) ∧ (next a).play between = (.ok b, w') := by
  rw [play_bind] at ended
  split at ended
  · rename_i a between first
    exact ⟨a, between, first, ended⟩
  · cases ended

/-- What was demanded and had is what is there. -/
theorem eq_some_of_play_demand {value : Option α} {kind : FaultKind} {w w' : World σ} {a : α}
    (had : (demand value kind : Act σ α).play w = (.ok a, w')) : value = some a := by
  cases value with
  | none => cases had
  | some own =>
    cases had
    rfl

theorem play_attempt_of {act : Act σ α} {w w' : World σ} {outcome : Except FaultId α}
    (ended : act.play w = (outcome, w')) : (attempt act).play w = (.ok outcome, w') := by
  rw [play_attempt, ended]

theorem play_andFinally_of_ok {act : Act σ α} {last : Act σ Unit} {w w' w'' : World σ}
    {outcome : Except FaultId α} (first : act.play w = (outcome, w'))
    (second : last.play w' = (.ok (), w'')) : (act.andFinally last).play w = (outcome, w'') := by
  rw [andFinally, play_bind_of_ok (play_attempt_of first), play_bind_of_ok (play_attempt_of second)]
  cases outcome <;> rfl

end Act

structure Slot (σ α : Type) where
  read : σ → α
  write : α → σ → σ
  read_write : ∀ a s, read (write a s) = a := by intros; rfl
  write_read : ∀ s, write (read s) s = s := by intros; rfl
  write_write : ∀ a b s, write a (write b s) = write a s := by intros; rfl

namespace Slot

variable {σ α : Type}

def through {β : Type} (outer : Slot σ β) (inner : Slot β α) : Slot σ α where
  read s := inner.read (outer.read s)
  write a s := outer.write (inner.write a (outer.read s)) s
  read_write := by intros; simp [outer.read_write, inner.read_write]
  write_read := by intros; simp [outer.write_read, inner.write_read]
  write_write := by intros; simp [outer.read_write, outer.write_write, inner.write_write]

def fetch (slot : Slot σ α) : Act σ α := return slot.read (← Act.own)

def store (slot : Slot σ α) (a : α) : Act σ Unit := Act.modifyOwn (slot.write a)

def change (slot : Slot σ α) (f : α → α) : Act σ Unit :=
  Act.modifyOwn fun s => slot.write (f (slot.read s)) s

@[simp]
theorem play_fetch (slot : Slot σ α) (w : World σ) :
    slot.fetch.play w = (.ok (slot.read w.own), w) := rfl

@[simp]
theorem play_store (slot : Slot σ α) (a : α) (w : World σ) :
    (slot.store a).play w = (.ok (), { w with own := slot.write a w.own }) := rfl

@[simp]
theorem play_change (slot : Slot σ α) (f : α → α) (w : World σ) :
    (slot.change f).play w =
      (.ok (), { w with own := slot.write (f (slot.read w.own)) w.own }) := rfl

end Slot

end CloudSession
