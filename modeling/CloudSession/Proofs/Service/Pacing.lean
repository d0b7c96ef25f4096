import CloudSession.Proofs.Http.Backoff
import CloudSession.Proofs.Http.Release
import CloudSession.Service.Options

/-! # The naps of a request

The transport of a service naps once over each transient failure that another attempt follows, and
over nothing else. The nap is the longer the more failures there were, of whatever kind, so the naps
of a request never get shorter. What the filters of a request do on the way, such as a login with
naps of its own, does not count.
-/

namespace CloudSession

open Act

/-- The naps taken since a world. -/
def World.napsSince {σ : Type} (w w' : World σ) : List Float := w'.naps.drop w.naps.length

variable {σ α : Type} [Wired σ]

/-- From one world to another no nap is taken, and the server is the same. -/
def Calm (w w' : World σ) : Prop :=
  w'.naps = w.naps ∧
    (Wired.wire.read w'.own).server = (Wired.wire.read w.own).server

instance : IsPreorder (World σ) Calm where
  refl _ := ⟨rfl, rfl⟩
  trans _ _ _ first second := ⟨second.1.trans first.1, second.2.trans first.2⟩

theorem lax_calm : Wire.Lax (Calm : World σ → World σ → Prop) where
  log _ _ := ⟨rfl, rfl⟩
  responses w responses := ⟨rfl, by rw [Slot.read_write]⟩

theorem calm_send (sent : Sent) : Act.Leads Calm (Wire.send sent : Act σ ResponseId) :=
  fun w => ⟨Wire.naps_send sent w, (Wire.untouched_send sent w).server⟩

namespace Client

/-- The naps of a pass, behind its filters, up to a world. -/
def napsUpTo (c : Client σ) (asked : Request) (w last : World σ) : List Float :=
  match (c.filter asked).play w with
  | (.error _, _) => []
  | (.ok _, filtered) => filtered.napsSince last

/-- The naps of the passes of a request after some failures, apart from those of its filters. -/
def napsFrom (c : Client σ) (asked : Request) (timeout : Value) :
    (left failures : Nat) → World σ → List Float
  | 0, failures, w => c.napsUpTo asked w ((c.trips asked timeout 0 failures).play w).2
  | left + 1, failures, w =>
    match (c.trip asked timeout failures).play w with
    | (.ok (.error _), after) =>
      c.napsUpTo asked w after ++ c.napsFrom asked timeout left (failures + 1) after
    | (_, after) => c.napsUpTo asked w after

/-- The naps of a request, apart from those of its filters. -/
def napsOf (c : Client σ) (asked : Request) (timeout : Value) (start : World σ) : List Float :=
  c.napsFrom asked (c.waiting timeout) (c.limit?.getD 0) 0 start

end Client

/-! ## The settings -/

namespace ServiceOptions

variable {o : ServiceOptions} {limit : Nat} {first : Number} {start : EReal}

/-- Settings of a service in numbers: how many attempts may follow the first one, few enough for the
doubling to stay within the doubles, and how long the first nap is. -/
structure Paces (o : ServiceOptions) (limit : Nat) (first : Number) (start : EReal) : Prop where
  limited : o.maxRetries.asNumber? = some (.whole limit)
  few : limit ≤ 1024
  starts : o.retryDelayStart.asNumber? = some first
  worth : first.worth? = some start
  natural : 0 ≤ start

/-- How the transport of a service waits out transient failures. -/
def backoff (o : ServiceOptions) : Backoff where
  limit := o.maxRetries
  delayStart := o.retryDelayStart

/-- The longest nap. -/
def longestNap : EReal := ((30 : ℝ) : EReal)

theorem worth?_maxDelay : Defaults.maxDelay.worth? = some longestNap := by
  have written : Number.real (Float.ofScientific 30 false 0) = Defaults.maxDelay := rfl
  rw [← written, Number.worth?_ofScientific (by norm_num), longestNap, Nat.cast_ofNat]

theorem Paces.spells (paces : o.Paces limit first start) :
    o.backoff.Spells limit first start longestNap where
  limited := paces.limited
  starts := paces.starts
  worth := paces.worth
  natural := paces.natural
  bounded := ⟨Defaults.maxDelay, rfl, worth?_maxDelay⟩
  positive := EReal.coe_nonneg.mpr (by norm_num)
  listed := ⟨_, rfl⟩

/-- The nap over a failure after some others: the first one, doubled for each of them, but not
longer than the longest. -/
structure Nap (start : EReal) (failures : Nat) (x : Float) : Prop where
  worth : (Number.real x).worth? = some (min (start * ((2 ^ failures : ℝ) : EReal)) longestNap)

theorem Paces.exists_nap (paces : o.Paces limit first start) {failures : Nat}
    (left : failures < limit) :
    ∃ seconds x, o.backoff.delay (failures + 1) = .ok seconds ∧ seconds.toFloat? = some x ∧
      Nap.isUsual x = true ∧ Nap start failures x := by
  have few := paces.few
  have short : Backoff.Short start longestNap (failures + 1) :=
    paces.spells.short rfl (by rfl) _
  have same : Backoff.doubled start longestNap (failures + 1) =
      min (start * ((2 ^ failures : ℝ) : EReal)) longestNap := by
    rw [Backoff.doubled_eq, add_sub_cancel_right, zpow_natCast]
  obtain ⟨seconds, x, delay, near, usual, worth⟩ := paces.spells.exists_nap
    (by omega : 1 ≤ (failures : Int) + 1) (.inr (by omega)) short
  exact ⟨seconds, x, delay, near, usual, ⟨worth.trans (congrArg some same)⟩⟩

theorem int_beq_int (m n : Int) : (Value.int m == Value.int n) = decide (m = n) := by
  have low : Min.min (0 : Int) 0 = 0 := rfl
  show Number.eq (.whole m) (.whole n) = _
  simp only [Number.eq, Number.scaled, Scaled.ofInt, Scaled.eq, low, Scaled.units_natAbs]

theorem isTransient?_backoff (o : ServiceOptions) (status : Int) :
    o.backoff.isTransient? status = some (decide (status ∈ Defaults.transientStatuses)) := by
  simp only [Backoff.isTransient?, backoff, List.any_map, Function.comp_def, int_beq_int]
  simp [List.any_eq, eq_comm]

theorem ofServer_of_transient {status : Int} (transient : status ∈ Defaults.transientStatuses) :
    500 ≤ status := by
  simp only [Defaults.transientStatuses, List.mem_cons, List.not_mem_nil, or_false] at transient
  omega

end ServiceOptions

/-! ## One pass -/

namespace Client

open ServiceOptions

variable {c : Client σ} {o : ServiceOptions} {limit failures : Nat} {first : Number} {start : EReal}
variable {asked current : Request} {timeout : Value} {w w' began : World σ} {i : ResponseId}
variable {r : Response}

/-- From one state to another the server is the same. -/
abbrev SameServer : σ → σ → Prop := Alike fun s => (Wired.wire.read s).server

/-- A client that retries as the transport of a service does, where forgetting a session takes no
nap, and neither that nor a filter changes the server. -/
structure Waits (c : Client σ) (o : ServiceOptions) (limit : Nat) (first : Number)
    (start : EReal) : Prop where
  paces : o.Paces limit first start
  retry : ∃ renewal invalidate, Act.Leads Calm invalidate ∧
    c.retry = some (.delegating (.renew renewal invalidate) (.backoff o.backoff))
  maxRetries : c.maxRetries = o.maxRetries
  filters : ∀ f ∈ c.filters, ∀ r, Act.Keeps SameServer (f r)

section

variable (waits : c.Waits o limit first start)

include waits

theorem Waits.limit?_eq : c.limit? = some limit := by
  show c.maxRetries.asNumber?.map _ = _
  rw [waits.maxRetries, waits.paces.limited, Option.map_some, Number.floor_whole]
  rfl

theorem Waits.kept : c.Kept SameServer where
  filters := waits.filters
  retry handler known := by
    obtain ⟨renewal, invalidate, calm, own⟩ := waits.retry
    obtain rfl := Option.some.inj (own.symm.trans known)
    exact ⟨fun w => (calm w).2, trivial⟩

/-- A response that is not waited out is not napped over. -/
theorem Waits.calm_accepts (holds : Wire.Holds w i r) {command : Command}
    (idle : r.status ∈ Defaults.transientStatuses → limit < command.failures + 1) :
    Calm w ((c.accepts command i).play w).2 := by
  obtain ⟨renewal, invalidate, calm, own⟩ := waits.retry
  have declines : Act.Leads Calm (Wire.release i >>= fun _ => pure false : Act σ Bool) :=
    .bind (Wire.leads_release lax_calm i) fun _ => .pure false
  rw [accepts_of_retry own, RetryHandler.shouldRetry, play_bind_of_ok holds.play_response]
  dsimp only
  split
  · have renews : (RetryHandler.renew renewal invalidate).Leads Calm command.failures := calm
    exact RetryHandler.leads_shouldRetry lax_calm command renews i w
  · split
    · have still := RetryHandler.play_napIfTransient_of_idle waits.paces.spells holds command
        (by simpa [isTransient?_backoff] using idle)
      obtain ⟨log, ended⟩ :=
        exists_play_andFinally (RetryHandler.napIfTransient o.backoff command i) (Wire.release i) w
      rw [RetryHandler.shouldRetry, ended, still]
      exact trans_of Calm (Wire.leads_release lax_calm i w) (lax_calm.log _ log)
    · exact declines w

/-- A transient failure is napped over as long as there are attempts left. -/
theorem Waits.play_accepts_of_transient (holds : Wire.Holds w i r)
    (gentle : ∀ plan, r.closeFails = some plan → plan.kind.isIo)
    (transient : r.status ∈ Defaults.transientStatuses) (left : failures < limit)
    (asked current : Request) :
    ∃ x after, (c.accepts ⟨asked, current, failures⟩ i).play w = (.ok true, after) ∧
      after.naps = w.naps ++ [x] ∧ Nap start failures x := by
  obtain ⟨renewal, invalidate, calm, own⟩ := waits.retry
  obtain ⟨seconds, x, delay, near, usual, nap⟩ := waits.paces.exists_nap left
  have listed : o.backoff.isTransient? r.status = some true := by
    rw [isTransient?_backoff, decide_eq_true transient]
  have napped := RetryHandler.play_napIfTransient_of_due waits.paces.spells holds
    ⟨asked, current, failures⟩ listed (by simpa using left) delay near usual
  have later : Wire.Holds { w with naps := w.naps ++ [x], clock := w.clock + x } i r :=
    holds.of_same rfl
  obtain ⟨log, released, -⟩ := later.play_release gentle
  have ofServer := ofServer_of_transient transient
  have notOfClient : (400 ≤ r.status && r.status < 500) = false := by
    simp only [Bool.and_eq_false_iff, decide_eq_false_iff_not]
    omega
  have played := play_andFinally_of_ok napped released
  refine ⟨x, _, Eq.trans ?_ played, rfl, nap⟩
  rw [accepts_of_retry own, RetryHandler.shouldRetry, play_bind_of_ok holds.play_response]
  simp only [notOfClient, Bool.false_eq_true, if_false, ofServer, if_true]
  rw [RetryHandler.shouldRetry]

/-- Apart from the naps over transient failures, judging a response takes none. -/
theorem Waits.calm_judge (holds : Wire.Holds w i r) {command : Command}
    (idle : r.status ∈ Defaults.transientStatuses → limit < command.failures + 1) :
    Calm w ((c.judge command i).play w).2 := by
  rw [judge_eq, play_bind_of_ok holds.play_response]
  split
  · exact refl_of Calm w
  · refine trans_of Calm (waits.calm_accepts holds idle) (Leads.behind (fun accepted => ?_) w)
    cases accepted with
    | true => exact .pure _
    | false => exact .bind (leads_conclude lax_calm.readable command i) fun _ => .pure _

theorem Waits.sameServer_comes (comes : c.Comes asked timeout began failures w) :
    SameServer began.own w.own := by
  have sendable : Wire.Sendable (SameServer : σ → σ → Prop) := by
    refine ⟨fun s responses => ?_, fun s sent responses => ?_⟩ <;>
      simp only [Alike, Slot.read_write]
  induction comes with
  | first => exact refl_of SameServer began.own
  | @again failures limit w w' due comes known fewer passed ih =>
    have pass := waits.kept.trip sendable asked timeout failures w
    rw [passed] at pass
    exact trans_of SameServer ih pass

end

/-- The reply to what is sent next. -/
def next (w : World σ) : Except FaultPlan Response :=
  ((Wired.wire.read w.own).server (Wired.wire.read w.own).sent.length).outcome

/-- What a pass naps behind its filters, of a request that began in one world and ended in
another. -/
inductive Paced (c : Client σ) (asked : Request) (timeout : Value) (began ended : World σ)
    (limit : Nat) (start : EReal) (failures : Nat) (w filtered : World σ) : Prop where
  /-- It naps once over a transient failure, and another pass follows. -/
  | naps {r : Response} {x : Float} {due : Due} {after : World σ} :
    next filtered = .ok r → r.status ∈ Defaults.transientStatuses → failures < limit →
    (c.trip asked timeout failures).play w = (.ok (.error due), after) →
    after.naps = filtered.naps ++ [x] → Nap start failures x →
    c.Comes asked timeout began (failures + 1) after →
    Paced c asked timeout began ended limit start failures w filtered
  /-- It does not nap, nor does what follows it, unless that is another pass. -/
  | idle :
    (∀ r, next filtered = .ok r → r.status ∈ Defaults.transientStatuses → limit ≤ failures) →
    ((c.trip asked timeout failures).play w).2.naps = filtered.naps →
    ((∀ due, ((c.trip asked timeout failures).play w).1 = .ok (.error due) → limit ≤ failures) →
      ended.naps = filtered.naps) →
    Paced c asked timeout began ended limit start failures w filtered

section

variable (waits : c.Waits o limit first start)

include waits

/-- A pass that meets no transient failure, or has no attempt left, does not nap. -/
theorem Waits.calm_trip (filtered : (c.filter asked).play w = (.ok current, w'))
    (idle : ∀ r, next w' = .ok r → r.status ∈ Defaults.transientStatuses → limit ≤ failures) :
    Calm w' ((c.trip asked timeout failures).play w).2 := by
  have sent := calm_send ⟨current, timeout, c.verify⟩ w'
  rw [trip_eq, play_bind_of_ok filtered]
  cases played : (Wire.send ⟨current, timeout, c.verify⟩ : Act σ ResponseId).play w' with
  | mk outcome between =>
    rw [played] at sent
    rw [play_bind_of_ok (play_attempt_of played)]
    cases outcome with
    | error i =>
      dsimp only
      rw [play_bind_of_ok (play_is _ _ _)]
      split <;> exact sent
    | ok i =>
      obtain ⟨r, answered, holds⟩ := Wire.Holds.of_send played
      refine trans_of Calm sent (waits.calm_judge holds fun transient => ?_)
      have spent := idle r answered transient
      simpa using spent

/-- Nothing naps behind the last pass. -/
theorem Waits.calm_behind
    (last : ∀ due, ((c.trip asked timeout failures).play w).1 = .ok (.error due) →
      limit ≤ failures) :
    Calm ((c.trip asked timeout failures).play w).2
      ((c.rest asked timeout failures).play w).2 := by
  cases passed : (c.trip asked timeout failures).play w with
  | mk outcome after =>
    rw [passed] at last
    rcases outcome with i | due | response
    · rw [play_rest_of_error passed]
      exact refl_of Calm after
    · rw [play_rest_of_spent waits.limit?_eq (last due rfl) passed]
      exact leads_giveUp lax_calm.readable due after
    · rw [play_rest_of_over passed]
      exact refl_of Calm after

/-- Each pass naps once over a transient failure that another pass follows, and otherwise not. -/
theorem Waits.paced_pass
    (gentle : ∀ n r plan, ((Wired.wire.read began.own).server n).outcome = .ok r →
      r.closeFails = some plan → plan.kind.isIo)
    (comes : c.Comes asked timeout began failures w)
    (filtered : (c.filter asked).play w = (.ok current, w')) :
    c.Paced asked timeout began ((c.rest asked timeout failures).play w).2 limit start failures w
      w' := by
  by_cases due : ∃ r, next w' = .ok r ∧ r.status ∈ Defaults.transientStatuses ∧ failures < limit
  · obtain ⟨r, answered, transient, left⟩ := due
    have same : (Wired.wire.read w'.own).server = (Wired.wire.read began.own).server := by
      have filter := Transport.keeps_filter (t := c.transport) waits.filters asked w
      rw [show c.transport.filter asked = c.filter asked from rfl, filtered] at filter
      exact trans_of SameServer (waits.sameServer_comes comes) filter
    have closes : ∀ plan, r.closeFails = some plan → plan.kind.isIo := by
      intro plan fails
      refine gentle (Wired.wire.read w'.own).sent.length r plan ?_ fails
      rw [← same]
      exact answered
    have sent : (Wire.send ⟨current, timeout, c.verify⟩).play w' = _ :=
      Wire.play_send_of_ok answered
    obtain ⟨r', answered', holds⟩ := Wire.Holds.of_send sent
    obtain rfl := Except.ok.inj (answered.symm.trans answered')
    obtain ⟨x, after, accepted, napped, nap⟩ :=
      waits.play_accepts_of_transient holds closes transient left asked current
    have ofServer := ofServer_of_transient transient
    have failed : ¬ r.status < 300 := by omega
    have passed := play_trip_of_accepted filtered sent holds failed accepted
    exact .naps answered transient left passed napped nap
      (.again comes waits.limit?_eq left passed)
  · push Not at due
    have calm : Calm w' ((c.trip asked timeout failures).play w).2 := waits.calm_trip filtered due
    refine .idle due calm.1 fun last => ?_
    exact (waits.calm_behind last).1.trans calm.1

end

/-! ## All passes -/

theorem napsUpTo_of_filtered {last : World σ}
    (filtered : (c.filter asked).play w = (.ok current, w')) :
    c.napsUpTo asked w last = w'.napsSince last := by
  rw [napsUpTo, filtered]

/-- The naps after so many failures. -/
def Naps (start : EReal) (naps : List Float) (failures : List Nat) : Prop :=
  List.Forall₂ (fun x k => Nap start k x) naps failures

section

variable (waits : c.Waits o limit first start)
variable (gentle : ∀ n r plan, ((Wired.wire.read began.own).server n).outcome = .ok r →
  r.closeFails = some plan → plan.kind.isIo)

include waits gentle

/-- The naps of a pass, told by the failures before it. -/
theorem Waits.exists_napsUpTo (comes : c.Comes asked timeout began failures w) {last : World σ}
    (behind : last = ((c.trip asked timeout failures).play w).2 ∨
      last = ((c.rest asked timeout failures).play w).2 ∧
        ∀ due, ((c.trip asked timeout failures).play w).1 = .ok (.error due) → limit ≤ failures) :
    ∃ before, Naps start (c.napsUpTo asked w last) before ∧ before.Pairwise (· < ·) ∧
      ∀ k ∈ before, k = failures := by
  have none : Naps start [] [] ∧ ([] : List Nat).Pairwise (· < ·) ∧ ∀ k ∈ [], k = failures :=
    ⟨.nil, .nil, fun k member => absurd member List.not_mem_nil⟩
  cases filtered : (c.filter asked).play w with
  | mk outcome w' =>
    cases outcome with
    | error i =>
      rw [napsUpTo, filtered]
      exact ⟨[], none⟩
    | ok current =>
      rw [napsUpTo_of_filtered filtered, World.napsSince]
      cases waits.paced_pass gentle comes filtered with
      | naps answered transient left passed napped nap again =>
        rcases behind with rfl | ⟨rfl, final⟩
        · rw [passed, napped, List.drop_left]
          exact ⟨[failures], .cons nap .nil, List.pairwise_singleton _ _,
            fun k => List.mem_singleton.mp⟩
        · exact absurd (final _ (congrArg Prod.fst passed)) (by omega)
      | idle idle still silent =>
        rcases behind with rfl | ⟨rfl, final⟩
        · rw [still, List.drop_length]
          exact ⟨[], none⟩
        · rw [silent final, List.drop_length]
          exact ⟨[], none⟩

/-- The naps of a request, told by the failures before each of them. -/
theorem Waits.exists_napsFrom (left : Nat) (comes : c.Comes asked timeout began failures w)
    (total : left + failures = limit) :
    ∃ before, Naps start (c.napsFrom asked timeout left failures w) before ∧
      before.Pairwise (· < ·) ∧ ∀ k ∈ before, failures ≤ k := by
  induction left generalizing failures w with
  | zero =>
    have rest : c.rest asked timeout failures = c.trips asked timeout 0 failures := by
      simp only [Client.rest, waits.limit?_eq]
      rw [Nat.sub_eq_zero_of_le (by omega)]
    obtain ⟨before, naps, growing, own⟩ :=
      waits.exists_napsUpTo gentle comes (.inr ⟨rfl, fun _ _ => by omega⟩)
    rw [napsFrom, ← rest]
    exact ⟨before, naps, growing, fun k member => (own k member).ge⟩
  | succ left ih =>
    obtain ⟨before, naps, growing, own⟩ := waits.exists_napsUpTo gentle comes (.inl rfl)
    have later : ∀ k ∈ before, failures ≤ k := fun k member => (own k member).ge
    rw [napsFrom]
    rcases passed : (c.trip asked timeout failures).play w with ⟨i | due | response, after⟩ <;>
      rw [passed] at naps
    · exact ⟨before, naps, growing, later⟩
    · obtain ⟨before', naps', growing', later'⟩ :=
        ih (.again comes waits.limit?_eq (by omega) passed) (by omega)
      -- The passes that follow have more failures behind them.
      refine ⟨before ++ before', List.rel_append naps naps', ?_, ?_⟩
      · refine List.pairwise_append.mpr ⟨growing, growing', fun k member k' member' => ?_⟩
        exact (own k member).trans_lt (later' k' member')
      · intro k member
        rcases List.mem_append.mp member with first | rest
        · exact later k first
        · exact (Nat.le_succ failures).trans (later' k rest)
    · exact ⟨before, naps, growing, later⟩

end

/-- One nap is not longer than another. -/
def NotLonger (x y : Float) : Prop :=
  ∃ r r', (Number.real x).worth? = some r ∧ (Number.real y).worth? = some r' ∧ r ≤ r'

/-- More failures make for no shorter naps. -/
theorem Naps.pairwise {naps : List Float} {before : List Nat} (naps_of : Naps start naps before)
    (natural : 0 ≤ start) (growing : before.Pairwise (· < ·)) : naps.Pairwise NotLonger := by
  have fits : naps.length = before.length := naps_of.length_eq
  refine List.pairwise_iff_get.mpr fun i j earlier => ?_
  have fewer := List.pairwise_iff_get.mp growing (i.cast fits) (j.cast fits) earlier
  have sooner := naps_of.get i.2 (i.cast fits).2
  have later := naps_of.get j.2 (j.cast fits).2
  refine ⟨_, _, sooner.worth, later.worth, ?_⟩
  refine min_le_min_right _ (mul_le_mul_of_nonneg_left ?_ natural)
  exact EReal.coe_le_coe_iff.mpr (pow_le_pow_right₀ one_le_two fewer.le)

end Client

/-- Over any replies whose responses can be released, the transport of a service naps at each pass
once if it meets a transient failure that another pass follows, for the shorter of the longest nap
and the first one doubled for every failure before, and otherwise not, nor behind the last pass. So
the naps of a request never get shorter. A filter that fails ends the request at once. -/
theorem ServiceOptions.paced {o : ServiceOptions} {limit : Nat} {first : Number} {start : EReal}
    (paces : o.Paces limit first start) {invalidate : Act σ Unit}
    (calm : Act.Leads Calm invalidate) {filters : List (Filter σ)}
    (serving : ∀ f ∈ filters, ∀ r, Act.Keeps Client.SameServer (f r)) {began : World σ}
    (gentle : ∀ n r plan, ((Wired.wire.read began.own).server n).outcome = .ok r →
      r.closeFails = some plan → plan.kind.isIo)
    (renewal : Renewal) (errors : ErrorStyle) (asked : Request) (timeout : Value) :
    let c := (o.client renewal invalidate errors).withFilters filters
    (∀ failures w current filtered, c.Comes asked (c.waiting timeout) began failures w →
      (c.filter asked).play w = (.ok current, filtered) →
      c.Paced asked (c.waiting timeout) began ((c.execute asked timeout).play began).2 limit start
        failures w filtered) ∧
    (∀ failures w i filtered, c.Comes asked (c.waiting timeout) began failures w →
      (c.filter asked).play w = (.error i, filtered) →
      (c.execute asked timeout).play began = (.error i, filtered)) ∧
    (c.napsOf asked timeout began).Pairwise Client.NotLonger := by
  intro c
  have waits : c.Waits o limit first start :=
    ⟨paces, ⟨_, invalidate, calm, rfl⟩, rfl, serving⟩
  refine ⟨?_, ?_, ?_⟩
  · intro failures w current filtered comes passed
    rw [comes.play_execute]
    exact waits.paced_pass gentle comes passed
  · intro failures w i filtered comes failed
    rw [comes.play_execute]
    refine Client.play_rest_of_error ?_
    rw [Client.trip_eq, play_bind_of_error failed]
  · rw [Client.napsOf, waits.limit?_eq]
    obtain ⟨before, naps, growing, -⟩ := waits.exists_napsFrom gentle limit .first (Nat.add_zero _)
    exact naps.pairwise paces.natural growing

namespace ServiceOptions

open RetryHandler (napping)

/-- A server that fails, cannot be reached, fails again and has recovered. -/
def flapping : Nat → Reply
  | 0 | 2 => { outcome := .ok { status := 503 } }
  | 1 => { outcome := .error (.ofKind (.line .connection)) }
  | _ => { outcome := .ok {} }

def facingFlapping : World Store := { clock := 0, own := { wire := { server := flapping } } }

/-- A filter that naps on its own, as a login may. -/
def dozing : Filter Store := fun request => do
  RetryHandler.nap (.whole 5)
  return request

/-- The line that is cut takes no nap, but makes the next one longer. The naps of the filter do not
count. -/
theorem paced_flapping :
    let forgetting : Act Store Unit := Store.sessionSlot.change Cell.invalidate
    let c := (napping.client {} forgetting .plain).withFilters [dozing]
    let asked : Request := { endpoint := .text "http://h/servers" }
    let filtered := ((c.filter asked).play facingFlapping).2
    napping.Paces 3 (.whole 1) (((1 : Int) : ℝ) : EReal) ∧ Act.Leads Calm forgetting ∧
      (∀ f ∈ [dozing], ∀ r, Act.Keeps Client.SameServer (f r)) ∧
      (∀ n r plan, (flapping n).outcome = .ok r → r.closeFails = some plan → plan.kind.isIo) ∧
      c.Paced asked (c.waiting .null) facingFlapping ((c.execute asked .null).play facingFlapping).2
        3 (((1 : Int) : ℝ) : EReal) 0 facingFlapping filtered ∧
      (c.napsOf asked .null facingFlapping).Pairwise Client.NotLonger ∧
      (c.napsOf asked .null facingFlapping).map Float.toBits =
        [(1 : Float), 4].map Float.toBits := by
  intro forgetting c asked filtered
  have paces : napping.Paces 3 (.whole 1) (((1 : Int) : ℝ) : EReal) :=
    ⟨rfl, by decide, rfl, Number.worth?_whole 1, EReal.coe_nonneg.mpr (by norm_num)⟩
  have calm : Act.Leads Calm forgetting := fun _ => ⟨rfl, rfl⟩
  have serving : ∀ f ∈ [dozing], ∀ r, Act.Keeps Client.SameServer (f r) := by
    intro f member r
    obtain rfl := List.mem_singleton.mp member
    exact .bind (RetryHandler.keeps_nap _) fun _ => .pure r
  have gentle : ∀ n r plan, ((Wired.wire.read facingFlapping.own).server n).outcome = .ok r →
      r.closeFails = some plan → plan.kind.isIo := by
    intro n r plan answered fails
    change (flapping n).outcome = .ok r at answered
    unfold flapping at answered
    split at answered <;> cases answered <;> cases fails
  obtain ⟨passes, -, growing⟩ := paced paces calm serving gentle {} .plain asked .null
  exact ⟨paces, calm, serving, gentle, passes 0 facingFlapping asked filtered .first rfl, growing,
    by decide +kernel⟩

end ServiceOptions

end CloudSession
