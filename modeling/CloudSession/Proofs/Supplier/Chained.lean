import CloudSession.Proofs.Supplier.Calm

/-! # Chains of suppliers

Each supplier of a chain fetches what the next one supplies, and the last one fetches from a script.
Whatever fault leaves one of them is no timeout that another attempt is worth, so those before it
call their fetch once and hand that fault on: the attempts of the last one are all there are. By
induction on how many links there are to the end of the chain.
-/

namespace CloudSession

open Act

namespace FaultLog

/-- A fault that whoever recognizes rejections hands on as it is: one that hides none, or a
rejection itself. -/
def IsPlain (log : FaultLog) (i : FaultId) : Prop :=
  log.verdict i = .handOn ∨ log.kind? i = some (.problem .authorization)

end FaultLog

namespace Member

/-- A supplier leads a flight when it is asked. -/
structure Launches (m : Member) (i : Nat) (w : World Pool) : Prop where
  unset : (w.own.latches m.latch).fault = none
  leads : (w.own.cells i).arrive m.manner.ttl w.clock = .leads

/-- The world inside the first call of its fetch. -/
def inside (m : Member) (i : Nat) (w : World Pool) : World Pool :=
  { w with own := { w.own with
      cells := setAt w.own.cells i (w.own.cells i).launch
      takeoffs := ⟨i, (w.own.latches m.latch).fault⟩ :: w.own.takeoffs } }

/-- How a supplier ends that asks another one: as that one does, unless that is a rejection and its
own latch was set before. -/
def handed (m : Member) : Except FaultId Value × World Pool → Except FaultId Value
  | (.ok value, _) => .ok value
  | (.error i, w) =>
    if w.log.is FaultKind.isAuthorization i then
      .error ((w.own.latches m.latch).fault.getD i)
    else .error i

end Member

namespace Network

/-- Each supplier hands on what the next one supplies, and the last one follows a script. Each has a
number of seconds for which a value stays fresh. -/
structure Chained (net : Network) : Prop where
  some_link : 0 < net.length
  next : ∀ i m, net[i]? = some m → i + 1 < net.length → m.source = .supplier (i + 1) none
  last : ∀ m, net[net.length - 1]? = some m → m.source = .script
  judged : ∀ m ∈ net, m.manner.ttl ≠ none

/-- Nothing is under way from a link on, latches hold rejections only, and so much is left to those
who come in between. -/
structure Ready (net : Network) (i : Nat) (w : World Pool) : Prop where
  idle : ∀ j, i ≤ j → j < net.length → (w.own.cells j).flight = none
  latches : HoldsRejections w
  plain : ∀ turn ∈ w.own.scripts (net.length - 1), ∀ action ∈ turn.during, action.IsPlain

/-- When link `i` is asked in a world, link `j` is asked in another one. -/
inductive Asks (net : Network) : Nat → World Pool → Nat → World Pool → Prop where
  | here {i : Nat} {w : World Pool} : Asks net i w i w
  | next {i j : Nat} {m : Member} {w v : World Pool} : net[i]? = some m → i + 1 < net.length →
    m.Launches i w → Asks net (i + 1) (m.inside i w) j v → Asks net i w j v

/-- What a fault is on which link `i` ends when it is asked in a world, and leaves another one. -/
inductive Origin (net : Network) (ask : Asking) (i : Nat) (w after : World Pool) (e : FaultId) :
    Prop where
  /-- A rejection that a latch of the chain holds. -/
  | latched {m : Member} : m ∈ net → after.log.kind? e = some (.problem .authorization) →
    (after.own.latches m.latch).fault = some e → Origin net ask i w after e
  /-- The report of the last link, with its name and its attempts. -/
  | report {m : Member} {count : Nat} {fault : Fault} : net[net.length - 1]? = some m →
    after.own.calls (net.length - 1) = w.own.calls (net.length - 1) + (count + 1) →
    after.log.get? e = some fault →
    fault.kind = .problem .sessionTimeout →
    fault.message = some ("Timed out fetching " ++ m.manner.name ++ " after " ++
      toString (count + 1) ++ " attempt(s)") → Origin net ask i w after e
  /-- The fault of an attempt of the last link, which is no reason for another one and hides no
  rejection. -/
  | own {m : Member} {f : (m.supplier (net.length - 1)).Flight} {count : Nat}
    {v v' : World Pool} : net[net.length - 1]? = some m →
    net.Asks i w (net.length - 1) f.called →
    f.Comes (net.fetch ask m (net.length - 1)) count v →
    (net.fetch ask m (net.length - 1)).play v = (.error e, v') → v'.log.verdict e = .handOn →
    Origin net ask i w after e

variable {net : Network} {ask : Asking} {m : Member} {i j k : Nat} {still : Prop}

/-! ## The end of a link -/

/-- While link `i` was asked, no link before it called its fetch, no other one but the last more
than once, and that one no more often than it may. -/
structure Sparing (net : Network) (i : Nat) (before after : Pool) : Prop where
  earlier : ∀ j < i, after.calls j = before.calls j
  linked : ∀ j, i ≤ j → j + 1 < net.length → after.calls j ≤ before.calls j + 1
  last : ∀ m, net[net.length - 1]? = some m → after.calls (net.length - 1) ≤
    before.calls (net.length - 1) + ((m.supplier (net.length - 1)).spare + 1)

/-- What is told of the end of link `i`, which was asked in the world `w`. -/
structure Accounted (net : Network) (ask : Asking) (still : Prop) (i : Nat) (w : World Pool)
    (ended : Except FaultId Value × World Pool) : Prop where
  calls : net.Sparing i w.own ended.2.own
  latches : HoldsRejections ended.2
  plain : ∀ e, ended.1 = .error e → ended.2.log.IsPlain e
  /-- If all keep still a latch is set to nothing but the fault at the end. -/
  seals : still → ∀ k, ended.2.own.latches k = w.own.latches k ∨
    ∃ e, ended.1 = .error e ∧ (ended.2.own.latches k).fault = some e
  origin : ∀ e, ended.1 = .error e → net.Origin ask i w ended.2 e

/-- A link that is turned away, or served, does nothing. -/
theorem accounted_of_idle {w : World Pool} {outcome : Except FaultId Value}
    (rejections : HoldsRejections w) (here : net[i]? = some m)
    (held : ∀ e, outcome = .error e → (w.own.latches m.latch).fault = some e) :
    net.Accounted ask still i w (outcome, w) where
  calls := ⟨fun _ _ => rfl, fun _ _ _ => Nat.le_succ _, fun _ _ => Nat.le_add_right _ _⟩
  latches := rejections
  plain e ended := .inr (rejections _ e (held e ended))
  seals _ _ := .inl rfl
  origin e ended :=
    .latched (List.mem_of_getElem? here) (rejections _ e (held e ended)) (held e ended)

/-- The flight that a link leads. -/
def flight (m : Member) {w : World Pool} (launches : m.Launches i w) : (m.supplier i).Flight where
  timeout := none
  called := w
  unset := launches.unset
  deadline := none
  known := rfl
  leads := launches.leads

theorem play_get_of_launches {w : World Pool} (here : net[i]? = some m)
    (launches : m.Launches i w) (depth : Nat) : (net.get (depth + 1) i none).play w =
      (flight m launches).outcome (net.fetch (net.get depth) m i) := by
  rw [get, here]
  rfl

/-! ## The last link -/

theorem Attempted.accounted {count : Nat} {w v : World Pool}
    {ended : Except FaultId Value × World Pool}
    (attempted : Attempted still i count w v) (last : i + 1 = net.length)
    (here : net[i]? = some m) (fits : count ≤ (m.supplier i).spare + 1)
    (takeoffs : ended.2.own.takeoffs = v.own.takeoffs) (latches : HoldsRejections ended.2)
    (plain : ∀ e, ended.1 = .error e → ended.2.log.IsPlain e)
    (seals : still → ∀ k, ended.2.own.latches k = w.own.latches k ∨
      ∃ e, ended.1 = .error e ∧ (ended.2.own.latches k).fault = some e)
    (origin : ∀ e, ended.1 = .error e → net.Origin ask i w ended.2 e) :
    net.Accounted ask still i w ended := by
  have calls (j : Nat) : ended.2.own.calls j = w.own.calls j + if j = i then count else 0 :=
    (Pool.calls_congr takeoffs j).trans (attempted.calls j)
  have index : net.length - 1 = i := by omega
  refine ⟨⟨fun j before => ?_, fun j behind linked => ?_, fun m' here' => ?_⟩, latches, plain,
    seals, origin⟩
  · rw [calls, if_neg (Nat.ne_of_lt before), Nat.add_zero]
  · omega
  · rw [index] at here' ⊢
    cases here.symm.trans here'
    rw [calls, if_pos rfl]
    exact Nat.add_le_add_left fits _

/-- The last link attempts its fetch as often as it may, and ends on a rejection that its latch
holds, on a report of its own or on the fault of an attempt. -/
theorem accounted_of_last (chained : net.Chained) (here : net[net.length - 1]? = some m)
    {f : (m.supplier (net.length - 1)).Flight} (rejections : HoldsRejections f.called)
    (scripted : Scripted still (net.length - 1) f.called) :
    net.Accounted ask still (net.length - 1) f.called
      (f.outcome (net.fetch ask m (net.length - 1))) := by
  have last : net.length - 1 + 1 = net.length := Nat.sub_add_cancel chained.some_link
  have member := List.mem_of_getElem? here
  have attempted (count : Nat) : Attempted still (net.length - 1) count f.called
      (f.before (net.fetch ask m (net.length - 1)) count) :=
    attempted_before (chained.last m here) scripted rejections count
  obtain ⟨count, fewer, comes, ending⟩ := f.exists_ending (net.fetch ask m (net.length - 1))
  have behind := attempted (count + 1)
  have fits := Nat.succ_le_succ fewer
  have unchanged (all : still) (k : Nat) := congrFun (behind.same all) k
  cases ending with
  | latched set lands =>
    have before := attempted count
    have rejection := before.latches _ _ set
    rw [lands]
    refine before.accounted last here (Nat.le_succ_of_le fewer) rfl before.latches ?_ ?_ ?_
    · rintro _ ⟨⟩
      exact .inr rejection
    · exact fun all k => .inl (congrFun (before.same all) k)
    · rintro _ ⟨⟩
      exact .latched member rejection set
  | fetched _ lands =>
    rw [lands]
    refine behind.accounted last here fits rfl behind.latches ?_ ?_ ?_
    · rintro _ ⟨⟩
    · exact fun all k => .inl (unchanged all k)
    · rintro _ ⟨⟩
  | handedOn ended handed_on lands =>
    rw [lands]
    refine behind.accounted last here fits rfl behind.latches ?_ ?_ ?_
    · rintro _ ⟨⟩
      exact .inl handed_on
    · exact fun all k => .inl (unchanged all k)
    · rintro _ ⟨⟩
      exact .own here .here comes (Supplier.Flight.play_before_of ended) handed_on
  | @rejected i first _ verdict lands =>
    have latches := behind.latches.reject (FaultLog.kind?_of_verdict verdict) m (net.length - 1) i
    have holds := fault_rejectedWorld m (net.length - 1) i first
      (f.before (net.fetch ask m (net.length - 1)) (count + 1))
    rw [lands]
    refine behind.accounted last here fits rfl latches ?_ ?_ ?_
    · rintro _ ⟨⟩
      exact .inr (latches _ _ holds)
    · intro all k
      by_cases own : k = m.latch
      · exact .inr ⟨_, rfl, own ▸ holds⟩
      · exact .inl ((latches_rejectedWorld_of_ne own _ i _ _).trans (unchanged all k))
    · rintro _ ⟨⟩
      exact .latched member (latches _ _ holds) holds
  | gaveUp _ _ lands =>
    obtain ⟨new, fault, told, kind, message, -⟩ := Supplier.Flight.reports_of_lands lands
    have report : (f.outcome (net.fetch ask m (net.length - 1))).2.log.kind? _ =
        some (.problem .sessionTimeout) := (congrArg _ told).trans (congrArg some kind)
    have latches : HoldsRejections (f.outcome (net.fetch ask m (net.length - 1))).2 := by
      rw [lands]
      exact behind.latches.failFrom _ _
    have takeoffs := congrArg (·.2.own.takeoffs) lands
    refine behind.accounted last here fits takeoffs latches ?_ ?_ ?_
    · intro e ended
      cases new.symm.trans ended
      exact .inl (FaultLog.verdict_of_report report)
    · intro all k
      have same := congrArg (·.2.own.latches k) lands
      exact .inl (same.trans (unchanged all k))
    · intro e ended
      cases new.symm.trans ended
      have made := (Pool.calls_congr takeoffs (net.length - 1)).trans (behind.calls _)
      rw [if_pos rfl] at made
      exact .report here made told kind message

/-! ## The links before it -/

section

variable {w : World Pool} {inner : Except FaultId Value × World Pool}
variable {f : (m.supplier i).Flight} (source : m.source = .supplier (i + 1) none)
variable (asked : (ask (i + 1) none).play (m.inside i f.called) = inner)

include source asked

/-- A link calls its fetch once. It hands on what the next one ends with, and what its own latch
holds in place of a rejection. -/
theorem outcome_of_next (net : Network) (plain : ∀ e, inner.1 = .error e → inner.2.log.IsPlain e) :
    f.outcome (net.fetch ask m i) = f.land inner ∧
        (∀ e, inner.1 = .error e → inner.2.log.verdict e = .handOn) ∨
      ∃ e, inner.1 = .error e ∧ inner.2.log.kind? e = some (.problem .authorization) ∧
        f.outcome (net.fetch ask m i) = f.land
          (.error ((inner.2.own.latches m.latch).fault.getD e),
            (m.supplier i).rejectedWorld e e inner.2) := by
  have comes : f.Comes (net.fetch ask m i) 0 f.launched := .first
  have called : (net.fetch ask m i).play f.launched = inner :=
    (play_fetch_of_next source _).trans asked
  rcases inner with ⟨outcome, w'⟩
  cases outcome with
  | ok value =>
    refine .inl ⟨comes.outcome_of_fetched f.unset called, ?_⟩
    rintro _ ⟨⟩
  | error e =>
    rcases plain e rfl with handed_on | rejection
    · refine .inl ⟨comes.outcome_of_handOn f.unset called handed_on, ?_⟩
      rintro _ ⟨⟩
      exact handed_on
    · have verdict := FaultLog.verdict_of_authorization rejection
      exact .inr ⟨e, rfl, rejection, comes.outcome_of_rejected f.unset called verdict⟩

theorem outcome_eq_handed (net : Network)
    (plain : ∀ e, inner.1 = .error e → inner.2.log.IsPlain e) :
    (f.outcome (net.fetch ask m i)).1 = m.handed inner := by
  have outcome := outcome_of_next source asked net plain
  rcases inner with ⟨e | value, w'⟩
  · rcases outcome with ⟨lands, handed_on⟩ | ⟨e', ended, rejection, lands⟩
    · have other : w'.log.is FaultKind.isAuthorization e = false := by
        rw [← Bool.not_eq_true, FaultLog.is_authorization_iff]
        intro rejection
        cases (handed_on e rfl).symm.trans (FaultLog.verdict_of_authorization rejection)
      rw [lands, Member.handed, other]
      rfl
    · cases ended
      have own := FaultLog.is_authorization_iff.mpr rejection
      rw [lands, Member.handed, own]
      rfl
  · rcases outcome with ⟨lands, -⟩ | ⟨_, ended, -⟩
    · rw [lands]
      rfl
    · cases ended

end

theorem calls_inside (m : Member) (i j : Nat) (w : World Pool) :
    (m.inside i w).own.calls j = w.own.calls j + if j = i then 1 else 0 :=
  calls_takenOff m i j
    { w with own := { w.own with cells := setAt w.own.cells i (w.own.cells i).launch } }

theorem Ready.next {w : World Pool} (ready : net.Ready i w) (m : Member) :
    net.Ready (i + 1) (m.inside i w) where
  idle j behind within := by
    have other : j ≠ i := by omega
    show (setAt w.own.cells i _ j).flight = none
    rw [setAt_of_ne _ other]
    exact ready.idle j (by omega) within
  latches := ready.latches
  plain := ready.plain

theorem Origin.before {w after after' : World Pool} {e : FaultId}
    (origin : net.Origin ask (i + 1) (m.inside i w) after e) (here : net[i]? = some m)
    (linked : i + 1 < net.length) (launches : m.Launches i w) (log : after'.log = after.log)
    (latches : after'.own.latches = after.own.latches)
    (takeoffs : after'.own.takeoffs = after.own.takeoffs) : net.Origin ask i w after' e := by
  cases origin with
  | latched member kind set => exact .latched member (log ▸ kind) (latches ▸ set)
  | report last made told kind message =>
    have further : net.length - 1 ≠ i := by omega
    rw [← Pool.calls_congr takeoffs, calls_inside, if_neg further, Nat.add_zero] at made
    exact .report last made (log ▸ told) kind message
  | own last asks comes failed handed_on =>
    exact .own last (.next here linked launches asks) comes failed handed_on

/-- If all keep still, the latch of a link holds nothing at the end of the next one but the fault of
that end. -/
theorem Accounted.held {inner : Except FaultId Value × World Pool} {w : World Pool}
    (told : net.Accounted ask still (i + 1) (m.inside i w) inner) (launches : m.Launches i w)
    (all : still) {e : FaultId} (ended : inner.1 = .error e) :
    (inner.2.own.latches m.latch).fault.getD e = e := by
  rcases told.seals all m.latch with same | ⟨e', ended', set⟩
  · have unset : (inner.2.own.latches m.latch).fault = none :=
      (congrArg _ same).trans launches.unset
    rw [unset, Option.getD_none]
  · cases ended.symm.trans ended'
    rw [set, Option.getD_some]

/-- The one call of a link adds to what the next one called. -/
theorem Sparing.next {w : World Pool} {p after : Pool}
    (sparing : net.Sparing (i + 1) (m.inside i w).own p) (linked : i + 1 < net.length)
    (takeoffs : after.takeoffs = p.takeoffs) : net.Sparing i w.own after := by
  have calls := Pool.calls_congr takeoffs
  refine ⟨fun j before => ?_, fun j behind linked => ?_, fun m' here => ?_⟩
  · rw [calls, sparing.earlier j (Nat.lt_succ_of_lt before), calls_inside,
      if_neg (Nat.ne_of_lt before), Nat.add_zero]
  · rw [calls]
    rcases Nat.eq_or_lt_of_le behind with rfl | further
    · rw [sparing.earlier i (Nat.lt_succ_self i), calls_inside, if_pos rfl]
    · have once := sparing.linked j further linked
      rwa [calls_inside, if_neg (Nat.ne_of_gt further), Nat.add_zero] at once
  · have further : net.length - 1 ≠ i := by omega
    have attempts := sparing.last m' here
    rwa [← calls, calls_inside, if_neg further, Nat.add_zero] at attempts

/-- What the end of the next link tells of the end of a link that asks it. -/
theorem accounted_of_next {inward : Asking} (here : net[i]? = some m) (linked : i + 1 < net.length)
    (source : m.source = .supplier (i + 1) none) {w : World Pool} (launches : m.Launches i w)
    {inner : Except FaultId Value × World Pool}
    (asked : (inward (i + 1) none).play (m.inside i w) = inner)
    (told : net.Accounted ask still (i + 1) (m.inside i w) inner) :
    net.Accounted ask still i w ((flight m launches).outcome (net.fetch inward m i)) := by
  have outcome := outcome_of_next (f := flight m launches) source asked net told.plain
  rcases outcome with ⟨lands, handed_on⟩ | ⟨e, ended, rejection, lands⟩
  · rw [lands]
    refine ⟨told.calls.next linked rfl, told.latches, ?_, told.seals, ?_⟩
    · exact fun e ended => .inl (handed_on e ended)
    · exact fun e ended => (told.origin e ended).before here linked launches rfl rfl rfl
  · have latches := told.latches.reject rejection m i e
    have holds := fault_rejectedWorld m i e e inner.2
    rw [lands]
    refine ⟨told.calls.next linked rfl, latches, ?_, fun all k => ?_, ?_⟩
    · rintro _ ⟨⟩
      exact .inr (latches _ _ holds)
    · by_cases own : k = m.latch
      · exact .inr ⟨_, rfl, own ▸ holds⟩
      · have other := latches_rejectedWorld_of_ne own i e e inner.2
        rcases told.seals all k with same | ⟨e', ended', set⟩
        · exact .inl (other.trans same)
        · cases ended.symm.trans ended'
          have held := told.held launches all ended
          exact .inr ⟨e, congrArg Except.error held, (congrArg _ other).trans set⟩
    · rintro _ ⟨⟩
      exact .latched (List.mem_of_getElem? here) (latches _ _ holds) holds

/-- It is enough to look at the links that lead a flight. -/
theorem accounted_of_launches (chained : net.Chained) (here : net[i]? = some m) {w : World Pool}
    (ready : net.Ready i w) (depth : Nat)
    (flown : ∀ launches : m.Launches i w, net.Accounted ask still i w
      ((flight m launches).outcome (net.fetch (net.get depth) m i))) :
    net.Accounted ask still i w ((net.get (depth + 1) i none).play w) := by
  have asked : (net.get (depth + 1) i none).play w =
      ((m.supplier i).get (net.fetch (net.get depth) m i)).play w := by
    rw [get, here]
  cases held : (w.own.latches m.latch).fault with
  | some fault =>
    rw [asked, Supplier.play_get_of_set held]
    refine accounted_of_idle ready.latches here ?_
    rintro _ ⟨⟩
    exact held
  | none =>
    cases arrived : (w.own.cells i).arrive m.manner.ttl w.clock with
    | served value =>
      rw [asked, Supplier.play_get_of_served held arrived]
      refine accounted_of_idle ready.latches here ?_
      rintro _ ⟨⟩
    | joins flight =>
      have idle := ready.idle i (Nat.le_refl i) (List.getElem?_eq_some_iff.mp here).1
      cases idle.symm.trans (Cell.flight_of_arrive_joins arrived)
    | unjudged =>
      exact absurd (Cell.ttl_of_arrive_unjudged arrived)
        (chained.judged m (List.mem_of_getElem? here))
    | leads =>
      rw [play_get_of_launches here ⟨held, arrived⟩]
      exact flown ⟨held, arrived⟩

/-- Whichever link is asked, what follows is accounted for, by induction on how many links there are
behind it. -/
theorem accounted_get (chained : net.Chained) {depth : Nat} (enough : net.length ≤ depth)
    {w : World Pool} (within : i < net.length) (ready : net.Ready i w)
    (all_still : still → ∀ turn ∈ w.own.scripts (net.length - 1), ∀ action ∈ turn.during,
      ¬ action.Tries) :
    net.Accounted (net.get (depth - net.length)) still i w
      ((net.get (depth - i) i none).play w) := by
  obtain ⟨further, length⟩ : ∃ further, net.length = i + further + 1 :=
    Nat.exists_eq_add_of_lt within
  induction further generalizing i w with
  | zero =>
    obtain rfl : i = net.length - 1 := by omega
    have inward : depth - (net.length - 1) = depth - net.length + 1 := by omega
    have here := List.getElem?_eq_getElem within
    rw [inward]
    refine accounted_of_launches chained here ready _ fun launches => ?_
    refine accounted_of_last (f := flight _ launches) chained here ready.latches ?_
    intro turn left action taken
    exact ⟨ready.plain turn left action taken, fun all => all_still all turn left action taken⟩
  | succ further ih =>
    have linked : i + 1 < net.length := by omega
    have inward : depth - i = depth - (i + 1) + 1 := by omega
    have here := List.getElem?_eq_getElem within
    have told := ih linked (ready.next net[i]) all_still (by omega)
    rw [inward]
    refine accounted_of_launches chained here ready _ fun launches => ?_
    exact accounted_of_next here linked (chained.next i _ here linked) launches rfl told

/-! ## Who is asked -/

theorem Asks.ready {w v : World Pool} (asks : net.Asks i w j v) (ready : net.Ready i w) :
    net.Ready j v := by
  induction asks with
  | here => exact ready
  | next _ _ _ _ ih => exact ih (ready.next _)

/-- A link hands on what the next one ends with. -/
theorem get_eq_handed (chained : net.Chained) {depth : Nat} (enough : net.length ≤ depth)
    (here : net[i]? = some m) (linked : i + 1 < net.length) {w : World Pool}
    (ready : net.Ready i w) (launches : m.Launches i w) :
    ((net.get (depth - i) i none).play w).1 =
      m.handed ((net.get (depth - (i + 1)) (i + 1) none).play (m.inside i w)) := by
  have told : net.Accounted (net.get (depth - net.length)) False (i + 1) (m.inside i w)
      ((net.get (depth - (i + 1)) (i + 1) none).play (m.inside i w)) :=
    accounted_get chained enough linked (ready.next m) False.elim
  have inward : depth - i = depth - (i + 1) + 1 := by omega
  rw [inward, play_get_of_launches here launches]
  exact outcome_eq_handed (f := flight m launches) (chained.next i m here linked) rfl net told.plain

/-- If all keep still, all the links that are asked end alike. -/
theorem Asks.get_eq (chained : net.Chained) {depth : Nat} (enough : net.length ≤ depth)
    {w v : World Pool} (asks : net.Asks i w j v) (ready : net.Ready i w)
    (all_still : ∀ turn ∈ w.own.scripts (net.length - 1), ∀ action ∈ turn.during,
      ¬ action.Tries) :
    ((net.get (depth - j) j none).play v).1 = ((net.get (depth - i) i none).play w).1 := by
  induction asks with
  | here => rfl
  | @next i j m w v here linked launches asks ih =>
    have told : net.Accounted (net.get (depth - net.length)) True (i + 1) (m.inside i w)
        ((net.get (depth - (i + 1)) (i + 1) none).play (m.inside i w)) :=
      accounted_get chained enough linked (ready.next m) fun _ => all_still
    rw [ih (ready.next m) all_still, get_eq_handed chained enough here linked ready launches]
    cases ended : (net.get (depth - (i + 1)) (i + 1) none).play (m.inside i w) with
    | mk outcome w' =>
      rw [ended] at told
      cases outcome with
      | ok value => rfl
      | error e =>
        rw [Member.handed, told.held launches trivial rfl, ite_self]

/-- However long a chain is, however often each link may attempt its fetch and whatever latches they
share: (1) one get calls the fetch of each link at most once, and that of the last one as often as
that one may attempt it; (2) the fault it ends on is a rejection that a latch of the chain holds, a
report of the last link or the fault of one of its attempts; (3) each link that asked the next one
ended as that one did, but for a rejection behind which its own latch was set to another one
already; (4) so, if nobody set a latch meanwhile, all the links that were asked ended alike. -/
theorem attempts_not_multiplied (net : Network) (chained : net.Chained) (depth : Nat)
    (enough : net.length ≤ depth) (w : World Pool) (ready : net.Ready 0 w) :
    let ended := (net.get depth 0 none).play w
    ((∀ i, i + 1 < net.length → ended.2.own.calls i ≤ w.own.calls i + 1) ∧
      ∀ m, net[net.length - 1]? = some m → (ended.2.own.calls (net.length - 1) : Int) ≤
        w.own.calls (net.length - 1) + max 1 m.manner.maxAttempts) ∧
    (∀ e, ended.1 = .error e →
      net.Origin (net.get (depth - net.length)) 0 w ended.2 e) ∧
    (∀ i v m, net.Asks 0 w i v → net[i]? = some m → i + 1 < net.length → m.Launches i v →
      ((net.get (depth - i) i none).play v).1 =
        m.handed ((net.get (depth - (i + 1)) (i + 1) none).play (m.inside i v))) ∧
    ((∀ turn ∈ w.own.scripts (net.length - 1), ∀ action ∈ turn.during, ¬ action.Tries) →
      ∀ i v, net.Asks 0 w i v → ((net.get (depth - i) i none).play v).1 = ended.1) := by
  intro ended
  have told : net.Accounted (net.get (depth - net.length)) False 0 w ended :=
    accounted_get chained enough chained.some_link ready False.elim
  refine ⟨⟨fun i linked => ?_, fun m here => ?_⟩, told.origin, ?_, ?_⟩
  · exact told.calls.linked i (Nat.zero_le i) linked
  · have attempts := told.calls.last m here
    have spare : (m.supplier (net.length - 1)).spare = (m.manner.maxAttempts - 1).toNat := rfl
    omega
  · intro i v m asks here linked launches
    exact get_eq_handed chained enough here linked (asks.ready ready) launches
  · intro all_still i v asks
    exact asks.get_eq chained enough ready all_still

/-- Three links, the first two of which share a latch. -/
def nested : Network :=
  [⟨⟨"orgs", some (.whole 60), 3⟩, 0, .supplier 1 none⟩,
    ⟨⟨"session", some (.whole 60), 3⟩, 0, .supplier 2 none⟩,
    ⟨⟨"login", some (.whole 60), 2⟩, 1, .script⟩]

theorem chained_nested : nested.Chained where
  some_link := by decide
  next
    | 0, _, rfl, _ => rfl
    | 1, _, rfl, _ => rfl
    | i + 2, _, _, linked => absurd linked (Nat.not_lt_of_le (Nat.le_add_left 3 i))
  last := by
    rintro m ⟨⟩
    rfl
  judged := by simp [nested]

def askedThrice : World Pool :=
  { clock := 1000, own := { scripts := fun _ => [Supplier.slowTurn, Supplier.slowTurn] } }

theorem ready_askedThrice : nested.Ready 0 askedThrice where
  idle _ _ _ := rfl
  latches _ _ set := by cases set
  plain := by simp [askedThrice, Supplier.slowTurn, Action.IsPlain]

/-- The last link may attempt its fetch twice and does, which the others do not repeat. -/
theorem attempts_not_multiplied_of_two :
    let ended := (nested.get 3 0 none).play askedThrice
    nested.Chained ∧ nested.Ready 0 askedThrice ∧ ended.1 = .error 2 ∧
      ended.2.own.calls 0 ≤ 1 ∧ ended.2.own.calls 1 ≤ 1 ∧ (ended.2.own.calls 2 : Int) ≤ 2 ∧
      ∃ v, nested.Asks 0 askedThrice 2 v ∧ ((nested.get 1 2 none).play v).1 = .error 2 := by
  intro ended
  have end_told : ended.1 = .error 2 := rfl
  obtain ⟨⟨linked, last⟩, -, -, alike⟩ := attempts_not_multiplied nested chained_nested 3
    (Nat.le_refl 3) askedThrice ready_askedThrice
  have asks : nested.Asks 0 askedThrice 2 _ :=
    .next rfl (by decide) ⟨rfl, rfl⟩ (.next rfl (by decide) ⟨rfl, rfl⟩ .here)
  have all_still : ∀ turn ∈ askedThrice.own.scripts (nested.length - 1),
      ∀ action ∈ turn.during, ¬ action.Tries := by
    simp [askedThrice, Supplier.slowTurn, Action.Tries]
  exact ⟨chained_nested, ready_askedThrice, end_told, linked 0 (by decide), linked 1 (by decide),
    last _ rfl, _, asks, (alike all_still 2 _ asks).trans end_told⟩

end Network

end CloudSession
