import CloudSession.Proofs.Problem
import CloudSession.Proofs.Supplier.Recognition
import Mathlib.Data.Nat.Find

/-! # How often a fetch is attempted

One attempt after another is made until one of them is a reason to stop: it brought a value, it
failed with a fault that no other attempt is worth, it is the last one there may be, or it failed
when the budget of the get was spent. As the latch is looked at before each attempt, none is made
either once somebody set it.
-/

namespace CloudSession

/-- What a cache says that gave up. -/
theorem message_givenUp (name : String) (attempts : Nat) :
    (givenUp name attempts).message =
      some ("Timed out fetching " ++ name ++ " after " ++ toString attempts ++ " attempt(s)") :=
  congrArg some (Problem.text_sessionTimeout name attempts)

namespace Supplier

open Act

variable {σ α : Type} {s : Supplier σ α} {fetch : Act σ α}

theorem play_deadline_of_worth {seconds : Number} {x : Float} (worth : seconds.toFloat? = some x)
    (w : World σ) : (Supplier.deadline (some seconds)).play w = (.ok (some (w.clock + x)), w) := by
  simp only [Supplier.deadline, worth]
  rfl

namespace Flight

/-- The world in which an attempt calls the fetch that follows so many other calls. -/
def before (f : s.Flight) (fetch : Act σ α) : Nat → World σ
  | 0 => f.launched
  | count + 1 => (fetch.play (f.before fetch count)).2

/-- How that call ends. -/
def ended (f : s.Flight) (fetch : Act σ α) (count : Nat) : Except FaultId α :=
  (fetch.play (f.before fetch count)).1

/-- The budget of a get is spent: it was called as many seconds ago, or more. -/
def Spent (f : s.Flight) (clock : Float) : Prop :=
  ∃ seconds x, f.timeout = some seconds ∧ seconds.toFloat? = some x ∧ f.called.clock + x ≤ clock

/-- An attempt after `count` others that is a reason to stop. -/
inductive Stops (f : s.Flight) (fetch : Act σ α) (count : Nat) : Prop where
  | value {value : α} : f.ended fetch count = .ok value → Stops f fetch count
  | final {i : FaultId} : f.ended fetch count = .error i →
    (f.before fetch (count + 1)).log.IsFinal i → Stops f fetch count
  | attempts : max 1 s.maxAttempts ≤ count + 1 → Stops f fetch count
  | budget {i : FaultId} : f.ended fetch count = .error i →
    f.Spent (f.before fetch (count + 1)).clock → Stops f fetch count

structure FirstStop (f : s.Flight) (fetch : Act σ α) (count : Nat) : Prop where
  stops : f.Stops fetch count
  goes_on : ∀ earlier < count, ¬ f.Stops fetch earlier

/-- A figure that each of the first `count` calls raises by one, and that does not depend on what is
in the cell. -/
structure Counts (f : s.Flight) (fetch : Act σ α) (count : Nat) (figure : σ → Nat) : Prop where
  raised : ∀ earlier < count,
    figure (f.before fetch (earlier + 1)).own = figure (f.before fetch earlier).own + 1
  cell : ∀ cell state, figure (s.cell.write cell state) = figure state

/-- A get that calls its fetch so many times, and does nothing else but to its cell. -/
structure Calls (f : s.Flight) (fetch : Act σ α) (count : Nat) : Prop where
  own : ∃ cell, (f.outcome fetch).2.own = s.cell.write cell (f.before fetch count).own
  counted : ∀ figure, f.Counts fetch count figure →
    figure (f.outcome fetch).2.own = figure f.called.own + count

/-- A get that ends on a new fault: its own report that it gave up after so many attempts, which
the fault `i` explains. -/
def Reports (f : s.Flight) (fetch : Act σ α) (attempts : Nat) (i : FaultId) (w : World σ) : Prop :=
  (f.outcome fetch).1 = .error w.log.size ∧
    ∃ fault, (f.outcome fetch).2.log.get? w.log.size = some fault ∧
      fault.kind = .problem .sessionTimeout ∧
      fault.message = some
        ("Timed out fetching " ++ s.name ++ " after " ++ toString attempts ++ " attempt(s)") ∧
      fault.cause = some i

/-- How a get makes the end of its last attempt, after `count` others, its own end. -/
inductive Ending (f : s.Flight) (fetch : Act σ α) (count : Nat) : Prop where
  /-- Somebody set the latch before the attempt. -/
  | latched {fault : FaultId} : (s.latch.read (f.before fetch count).own).fault = some fault →
    f.outcome fetch = f.land (.error fault, f.before fetch count) → Ending f fetch count
  | fetched {value : α} : f.ended fetch count = .ok value →
    f.outcome fetch = f.land (.ok value, f.before fetch (count + 1)) → Ending f fetch count
  | handedOn {i : FaultId} : f.ended fetch count = .error i →
    (f.before fetch (count + 1)).log.verdict i = .handOn →
    f.outcome fetch = f.land (.error i, f.before fetch (count + 1)) → Ending f fetch count
  | rejected {i first : FaultId} : f.ended fetch count = .error i →
    (f.before fetch (count + 1)).log.verdict i = .rejected first →
    f.outcome fetch = f.land
      (.error ((s.latch.read (f.before fetch (count + 1)).own).fault.getD first),
        s.rejectedWorld i first (f.before fetch (count + 1))) → Ending f fetch count
  | gaveUp {i : FaultId} : f.ended fetch count = .error i →
    (f.before fetch (count + 1)).log.verdict i = .timedOut →
    f.outcome fetch = f.land ((failFrom (givenUp s.name (count + 1)) i).play
      (f.before fetch (count + 1))) → Ending f fetch count

/-- A get that ends as the attempt after `count` others did, or with a report in its place. -/
inductive EndsWith (f : s.Flight) (fetch : Act σ α) (count : Nat) : Prop where
  | value {value : α} : f.ended fetch count = .ok value → (f.outcome fetch).1 = .ok value →
    EndsWith f fetch count
  | final {i : FaultId} : f.ended fetch count = .error i →
    (f.before fetch (count + 1)).log.IsFinal i → (f.outcome fetch).1 = .error i →
    EndsWith f fetch count
  | timeout {i : FaultId} : f.ended fetch count = .error i →
    ¬ (f.before fetch (count + 1)).log.IsFinal i →
    f.Reports fetch (count + 1) i (f.before fetch (count + 1)) → EndsWith f fetch count

variable {f : s.Flight} {count : Nat}

theorem play_before (f : s.Flight) (fetch : Act σ α) (count : Nat) :
    fetch.play (f.before fetch count) = (f.ended fetch count, f.before fetch (count + 1)) := rfl

theorem play_before_of {outcome : Except FaultId α} (ended : f.ended fetch count = outcome) :
    fetch.play (f.before fetch count) = (outcome, f.before fetch (count + 1)) := by
  rw [play_before, ended]

theorem isDue_iff_spent (f : s.Flight) (clock : Float) :
    isDue f.deadline clock = true ↔ f.Spent clock := by
  obtain ⟨timeout, called, -, deadline, known, -⟩ := f
  cases timeout with
  | none =>
    cases known
    simp [Spent, isDue]
  | some seconds =>
    cases worth : seconds.toFloat? with
    | none =>
      simp only [Supplier.deadline, worth] at known
      cases known
    | some x =>
      rw [play_deadline_of_worth worth] at known
      cases known
      simp [Spent, worth, isDue]

/-! ## Going on -/

theorem lt_spare_of_not_stops (goes_on : ¬ f.Stops fetch count) : count < s.spare := by
  have more : ¬ max 1 s.maxAttempts ≤ count + 1 := fun last => goes_on (.attempts last)
  unfold spare
  omega

/-- Behind an attempt that is no reason to stop another one comes, if nobody set the latch. -/
theorem Comes.next (comes : f.Comes fetch count (f.before fetch count))
    (unset : (s.latch.read (f.before fetch count).own).fault = none)
    (goes_on : ¬ f.Stops fetch count) : f.Comes fetch (count + 1) (f.before fetch (count + 1)) := by
  cases ended : f.ended fetch count with
  | ok value => exact absurd (.value ended) goes_on
  | error i =>
    have timed_out : (f.before fetch (count + 1)).log.verdict i = .timedOut :=
      FaultLog.verdict_eq_timedOut_iff.mpr fun final => goes_on (.final ended final)
    have in_time : isDue f.deadline (f.before fetch (count + 1)).clock = false := by
      rw [← Bool.not_eq_true, isDue_iff_spent]
      exact fun spent => goes_on (.budget ended spent)
    exact .again comes unset (play_before_of ended) timed_out in_time
      (lt_spare_of_not_stops goes_on)

theorem comes_before (goes_on : ∀ earlier < count, ¬ f.Stops fetch earlier)
    (unset : ∀ earlier < count, (s.latch.read (f.before fetch earlier).own).fault = none) :
    f.Comes fetch count (f.before fetch count) := by
  induction count with
  | zero => exact .first
  | succ count ih =>
    have comes := ih (fun earlier fewer => goes_on earlier (Nat.lt_succ_of_lt fewer))
      fun earlier fewer => unset earlier (Nat.lt_succ_of_lt fewer)
    exact comes.next (unset count (Nat.lt_succ_self count)) (goes_on count (Nat.lt_succ_self count))

/-- Some attempt is a reason to stop, and no later than the last there may be. -/
theorem exists_firstStop (f : s.Flight) (fetch : Act σ α) :
    ∃ count, f.FirstStop fetch count ∧ (count + 1 : Int) ≤ max 1 s.maxAttempts := by
  classical
  have last : f.Stops fetch s.spare := .attempts (by unfold spare; omega)
  have some_stop : ∃ count, f.Stops fetch count := ⟨_, last⟩
  have no_later : Nat.find some_stop ≤ s.spare := Nat.find_min' some_stop last
  refine ⟨Nat.find some_stop, ⟨Nat.find_spec some_stop, fun _ => Nat.find_min some_stop⟩, ?_⟩
  unfold spare at no_later
  omega

/-! ## Stopping -/

theorem ending_of_stops (comes : f.Comes fetch count (f.before fetch count))
    (unset : (s.latch.read (f.before fetch count).own).fault = none)
    (stops : f.Stops fetch count) : f.Ending fetch count := by
  cases ended : f.ended fetch count with
  | ok value => exact .fetched ended (comes.outcome_of_fetched unset (play_before_of ended))
  | error i =>
    have failed := play_before_of ended
    cases verdict : (f.before fetch (count + 1)).log.verdict i with
    | handOn => exact .handedOn ended verdict (comes.outcome_of_handOn unset failed verdict)
    | rejected first =>
      exact .rejected ended verdict (comes.outcome_of_rejected unset failed verdict)
    | timedOut =>
      have spent :
          s.spare ≤ count ∨ isDue f.deadline (f.before fetch (count + 1)).clock = true := by
        cases stops with
        | value fetched => cases ended.symm.trans fetched
        | final failed' final =>
          cases ended.symm.trans failed'
          exact absurd final (FaultLog.verdict_eq_timedOut_iff.mp verdict)
        | attempts last => exact .inl (by unfold spare; omega)
        | budget _ spent => exact .inr ((isDue_iff_spent f _).mpr spent)
      exact .gaveUp ended verdict (comes.outcome_of_spent unset failed verdict spent)

/-- A get has a last attempt, which it comes to unless the latch is set before. -/
theorem exists_ending (f : s.Flight) (fetch : Act σ α) :
    ∃ count ≤ s.spare, f.Comes fetch count (f.before fetch count) ∧ f.Ending fetch count := by
  classical
  obtain ⟨stop, first, no_later⟩ := f.exists_firstStop fetch
  have some_end : ∃ count, (s.latch.read (f.before fetch count).own).fault ≠ none ∨
      f.Stops fetch count := ⟨stop, .inr first.stops⟩
  have earlier : Nat.find some_end ≤ stop := Nat.find_min' some_end (.inr first.stops)
  have goes_on (count : Nat) (fewer : count < Nat.find some_end) :=
    not_or.mp (Nat.find_min some_end fewer)
  have comes : f.Comes fetch (Nat.find some_end) (f.before fetch (Nat.find some_end)) :=
    comes_before (fun count fewer => (goes_on count fewer).2)
      fun count fewer => not_not.mp (goes_on count fewer).1
  refine ⟨Nat.find some_end, by unfold spare; omega, comes, ?_⟩
  cases held : (s.latch.read (f.before fetch (Nat.find some_end)).own).fault with
  | some fault => exact .latched held (comes.outcome_of_latched held)
  | none =>
    have stops := (Nat.find_spec some_end).resolve_left (not_not.mpr held)
    exact ending_of_stops comes held stops

theorem Counts.before {figure : σ → Nat} (counts : f.Counts fetch count figure) :
    figure (f.before fetch count).own = figure f.called.own + count := by
  induction count with
  | zero => exact counts.cell _ _
  | succ count ih =>
    have fewer : f.Counts fetch count figure :=
      ⟨fun earlier before => counts.raised earlier (Nat.lt_succ_of_lt before), counts.cell⟩
    rw [counts.raised count (Nat.lt_succ_self count), ih fewer, Nat.add_assoc]

theorem calls_of_lands {outcome : Except FaultId α} {w : World σ}
    (lands : f.outcome fetch = f.land (outcome, w)) (own : w.own = (f.before fetch count).own) :
    f.Calls fetch count := by
  have written : ∃ cell, (f.outcome fetch).2.own =
      s.cell.write cell (f.before fetch count).own := by
    rw [lands, ← own]
    exact ⟨_, rfl⟩
  refine ⟨written, fun figure counts => ?_⟩
  obtain ⟨cell, same⟩ := written
  rw [same, counts.cell, counts.before]

theorem reports_of_lands {i : FaultId} {attempts : Nat} {w : World σ}
    (lands : f.outcome fetch = f.land ((failFrom (givenUp s.name attempts) i).play w)) :
    f.Reports fetch attempts i w := by
  rw [play_failFrom] at lands
  have told := w.log.get?_add_self { givenUp s.name attempts with cause := some i }
  obtain ⟨context, still⟩ := FaultLog.exists_get?_arise told w.log.size i
  rw [Reports, lands]
  exact ⟨rfl, _, still, rfl, message_givenUp s.name attempts, rfl⟩

/-- The get ends with the first attempt that is a reason to stop. -/
theorem FirstStop.ends (first : f.FirstStop fetch count)
    (unset : ∀ earlier ≤ count, (s.latch.read (f.before fetch earlier).own).fault = none)
    (honest : ∀ i, f.ended fetch count = .error i → ¬ (f.before fetch (count + 1)).log.Hides i) :
    f.Calls fetch (count + 1) ∧ f.EndsWith fetch count := by
  have comes := comes_before first.goes_on fun earlier fewer => unset earlier (Nat.le_of_lt fewer)
  have open_yet := unset count (Nat.le_refl count)
  cases ending_of_stops comes open_yet first.stops with
  | latched set => cases set.symm.trans open_yet
  | fetched ended lands =>
    exact ⟨calls_of_lands lands rfl, .value ended (congrArg Prod.fst lands)⟩
  | @handedOn i ended handed_on lands =>
    have final : (f.before fetch (count + 1)).log.IsFinal i := by
      by_contra timeout
      cases handed_on.symm.trans (FaultLog.verdict_eq_timedOut_iff.mpr timeout)
    exact ⟨calls_of_lands lands rfl, .final ended final (congrArg Prod.fst lands)⟩
  | rejected ended verdict =>
    exact absurd verdict (FaultLog.verdict_ne_rejected (honest _ ended) _)
  | gaveUp ended timed_out lands =>
    exact ⟨calls_of_lands lands rfl,
      .timeout ended (FaultLog.verdict_eq_timedOut_iff.mp timed_out) (reports_of_lands lands)⟩

/-- There is no attempt any more once somebody set the latch. -/
theorem latched (goes_on : ∀ earlier ≤ count, ¬ f.Stops fetch earlier)
    (unset : ∀ earlier ≤ count, (s.latch.read (f.before fetch earlier).own).fault = none)
    {fault : FaultId}
    (set : (s.latch.read (f.before fetch (count + 1)).own).fault = some fault) :
    (f.outcome fetch).1 = .error fault ∧ f.Calls fetch (count + 1) := by
  have comes : f.Comes fetch (count + 1) (f.before fetch (count + 1)) :=
    comes_before (fun earlier fewer => goes_on earlier (Nat.le_of_lt_succ fewer))
      fun earlier fewer => unset earlier (Nat.le_of_lt_succ fewer)
  have lands := comes.outcome_of_latched set
  exact ⟨congrArg Prod.fst lands, calls_of_lands lands rfl⟩

end Flight

/-- A get that leads a flight, whatever its fetch does and however long that takes: (1) an attempt
is the first reason to stop, no later than the last there may be; (2) unless somebody set the latch
before it, or its fault hides a rejection, the get ends with that attempt; (3) if somebody set the
latch during an attempt that was no reason to stop, there is no other one, and the get ends on what
the latch holds. -/
theorem ends_with_first_stop (f : s.Flight) (fetch : Act σ α) :
    (∃ count, f.FirstStop fetch count ∧ (count + 1 : Int) ≤ max 1 s.maxAttempts) ∧
    (∀ count, f.FirstStop fetch count →
      (∀ earlier ≤ count, (s.latch.read (f.before fetch earlier).own).fault = none) →
      (∀ i, f.ended fetch count = .error i → ¬ (f.before fetch (count + 1)).log.Hides i) →
      f.Calls fetch (count + 1) ∧ f.EndsWith fetch count) ∧
    ∀ count fault, (∀ earlier ≤ count, ¬ f.Stops fetch earlier) →
      (∀ earlier ≤ count, (s.latch.read (f.before fetch earlier).own).fault = none) →
      (s.latch.read (f.before fetch (count + 1)).own).fault = some fault →
      (f.outcome fetch).1 = .error fault ∧ f.Calls fetch (count + 1) := by
  refine ⟨f.exists_firstStop fetch, ?_, ?_⟩
  · intro count first unset honest
    exact first.ends unset honest
  · intro count fault goes_on unset set
    exact Flight.latched goes_on unset set

theorem toFloat?_seven : (Number.whole 7).toFloat? = some 7 := by decide +kernel

/-- A get of seven seconds. -/
def budgeted (script : List Turn) : (scripted.supplier 0).Flight :=
  { scriptedFlight script with
    timeout := some (.whole 7)
    deadline := some (1000 + 7)
    known := play_deadline_of_worth toFloat?_seven _ }

/-- A fetch that takes five seconds, which is too long. -/
def slowTurn : Turn := { during := [.pass 5], landing := .fault (.ofKind .timeout) }

/-- So does this one, while somebody sets the latch. -/
def latchedTurn : Turn :=
  { during := [.pass 5, .trySet 0 (.ofKind (.problem .authorization))],
    landing := .fault (.ofKind .timeout) }

/-- An attempt is no reason to stop that times out after five seconds. -/
theorem not_stops_budgeted {script : List Turn} {i : FaultId}
    (failed : (budgeted script).ended scriptedFetch 0 = .error i)
    (clock : ((budgeted script).before scriptedFetch 1).clock = 1000 + 5)
    (timeout : ((budgeted script).before scriptedFetch 1).log.kind? i = some .timeout) :
    ¬ (budgeted script).Stops scriptedFetch 0 := by
  intro stops
  cases stops with
  | value fetched => cases failed.symm.trans fetched
  | final failed' final =>
    cases failed.symm.trans failed'
    rcases final with report | other
    · cases timeout.symm.trans report
    · rw [FaultLog.is, timeout] at other
      cases other
  | attempts last => exact absurd last (by decide)
  | budget _ spent =>
    have in_time : isDue (some (1000 + 7)) (1000 + 5) = false := by decide +kernel
    rw [clock, ← Flight.isDue_iff_spent] at spent
    cases in_time.symm.trans spent

/-- There might be three attempts, but the second one is the last as it ends ten seconds behind the
call, and so is the first one when somebody sets the latch during it. -/
theorem ends_with_first_stop_over_budget :
    let f := budgeted [slowTurn, slowTurn]
    let g := budgeted [latchedTurn, slowTurn]
    (f.FirstStop scriptedFetch 1 ∧ (f.outcome scriptedFetch).2.own.calls 0 = 2 ∧
      f.EndsWith scriptedFetch 1) ∧
    ¬ g.Stops scriptedFetch 0 ∧ (g.outcome scriptedFetch).1 = .error 0 ∧
      (g.outcome scriptedFetch).2.own.calls 0 = 1 := by
  intro f g
  have due : isDue (some (1000 + 7)) (1000 + 5 + 5) = true := by decide +kernel
  have first : f.FirstStop scriptedFetch 1 := by
    refine ⟨.budget (i := 1) rfl ((f.isDue_iff_spent _).mp due), ?_⟩
    intro earlier fewer
    obtain rfl := Nat.lt_one_iff.mp fewer
    exact not_stops_budgeted (i := 0) rfl rfl rfl
  have unset : ∀ earlier ≤ 1, ((f.before scriptedFetch earlier).own.latches 0).fault = none
    | 0, _ => rfl
    | 1, _ => rfl
  have honest : ∀ i, f.ended scriptedFetch 1 = .error i →
      ¬ (f.before scriptedFetch 2).log.Hides i := by
    rintro i ⟨⟩
    exact FaultLog.rejection?_eq_none_iff.mp rfl
  have ends := (ends_with_first_stop f scriptedFetch).2.1 1 first unset honest
  have goes_on : ¬ g.Stops scriptedFetch 0 := not_stops_budgeted (i := 1) rfl rfl rfl
  have unset_before : ∀ earlier ≤ 0, ((g.before scriptedFetch earlier).own.latches 0).fault = none
    | 0, _ => rfl
  have latched := (ends_with_first_stop g scriptedFetch).2.2 0 0
    (fun earlier fewer => Nat.le_zero.mp fewer ▸ goes_on) unset_before rfl
  have counts (h : (scripted.supplier 0).Flight) (count : Nat)
      (raised : ∀ earlier < count, (h.before scriptedFetch (earlier + 1)).own.calls 0 =
        (h.before scriptedFetch earlier).own.calls 0 + 1) :
      h.Counts scriptedFetch count (Pool.calls · 0) :=
    ⟨raised, fun _ _ => rfl⟩
  refine ⟨⟨first, ?_, ends.2⟩, goes_on, latched.1, ?_⟩
  · refine ends.1.counted _ (counts f 2 ?_)
    rintro (_ | _ | earlier) fewer
    · rfl
    · rfl
    · omega
  · refine latched.2.counted _ (counts g 1 ?_)
    intro earlier fewer
    obtain rfl := Nat.lt_one_iff.mp fewer
    rfl

end Supplier

end CloudSession
