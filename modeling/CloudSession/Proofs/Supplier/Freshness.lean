import CloudSession.Proofs.Supplier.Step

/-! # What a caller finds

A caller who looks at the cell finds what a cache with a perfect memory would give him: the landing
to remember while it is fresh, and otherwise the current flight or, if there is none, one of his
own. The clock may be set back and forth, and values may stay fresh for any time or for none.
-/

namespace CloudSession

open Chronicle

variable {α : Type} {seconds : Number}

/-! ## One look at the cell -/

namespace Desk.Orderly

variable {d : Desk α} {now : Float} {value : α}

theorem arrive_eq_served_iff (order : d.Orderly (some seconds)) :
    d.cell.arrive (some seconds) now = .served value ↔
      ∃ delivery, d.chronicle.Offers seconds now delivery ∧ delivery.value = value := by
  rw [Cell.arrive_eq_served_iff, order.cell.memo]
  constructor
  · rintro ⟨_, time, ⟨⟩, memo, fresh⟩
    obtain ⟨delivery, toKeep, same⟩ := Option.map_eq_some_iff.mp memo
    cases same
    exact ⟨delivery, ⟨toKeep, fresh⟩, rfl⟩
  · rintro ⟨delivery, offers, rfl⟩
    exact ⟨seconds, delivery.time, rfl, by rw [offers.kept]; rfl, offers.fresh⟩

theorem arrive_of_no_offer (order : d.Orderly (some seconds))
    (nothing : ∀ delivery, ¬ d.chronicle.Offers seconds now delivery) :
    d.cell.arrive (some seconds) now =
      match d.cell.flight with
      | some flight => .joins flight
      | none => .leads := by
  apply Cell.arrive_of_not_fresh
  intro value time memo fresh
  rw [order.cell.memo] at memo
  obtain ⟨delivery, toKeep, same⟩ := Option.map_eq_some_iff.mp memo
  cases same
  exact nothing delivery ⟨toKeep, fresh⟩

theorem arrive_eq_joins (order : d.Orderly (some seconds)) {f : FlightId}
    (nothing : ∀ delivery, ¬ d.chronicle.Offers seconds now delivery)
    (progress : d.chronicle.InProgress f) (current : d.chronicle.IsCurrent f) :
    d.cell.arrive (some seconds) now = .joins f := by
  have slot : d.cell.flight = some f := (order.cell.slot f).mpr ⟨progress, current⟩
  rw [order.arrive_of_no_offer nothing, slot]

theorem arrive_eq_leads (order : d.Orderly (some seconds))
    (nothing : ∀ delivery, ¬ d.chronicle.Offers seconds now delivery)
    (free : ∀ f, d.chronicle.InProgress f → ¬ d.chronicle.IsCurrent f) :
    d.cell.arrive (some seconds) now = .leads := by
  have slot : d.cell.flight = none := by
    by_contra taken
    obtain ⟨f, taken⟩ := Option.ne_none_iff_exists'.mp taken
    obtain ⟨progress, current⟩ := (order.cell.slot f).mp taken
    exact free f progress current
  rw [order.arrive_of_no_offer nothing, slot]

end Desk.Orderly

/-! ## What follows a look -/

namespace Traffic

variable {t : Traffic α} {m : Manner} {i : Nat} {deadline : Option Float}

theorem step_go_of_entering (at_stage : t.stage? i = some (.entering deadline)) :
    (t.step m (.go i)).2 = t.enter m i deadline := by
  simp [step, go, at_stage]

theorem run_of_served {value : α} (at_stage : t.stage? i = some (.entering deadline))
    (served : t.cell.arrive m.ttl t.clock = .served value) :
    t.run m [.go i, .go i, .go i] = t.atDesk (·.serve i value t.clock) := by
  have first : (t.step m (.go i)).2 = t.atDesk (·.serve i value t.clock) := by
    rw [step_go_of_entering at_stage, enter, served]
  have ended : (t.atDesk (·.serve i value t.clock)).stage? i = some (.done (.ok value)) :=
    Desk.stage?_serve at_stage value t.clock
  rw [run, List.foldl_cons, first]
  simp [step, go, ended]

/-- Whoever joins a flight in progress gets no further. -/
theorem run_of_joins {f : FlightId} (at_stage : t.stage? i = some (.entering deadline))
    (joins : t.cell.arrive m.ttl t.clock = .joins f) (open_yet : t.ending? f = none) :
    t.run m [.go i, .go i, .go i] = t.atDesk (·.join i f deadline) := by
  have first : (t.step m (.go i)).2 = t.atDesk (·.join i f deadline) := by
    rw [step_go_of_entering at_stage, enter, joins]
  have waits : (t.atDesk (·.join i f deadline)).stage? i = some (.waiting f deadline) :=
    Desk.stage?_join at_stage f deadline
  have still : (t.atDesk (·.join i f deadline)).ending? f = none := open_yet
  rw [run, List.foldl_cons, first]
  simp [step, go, waits, wake, still]

/-- Whoever leads a flight calls the fetch, as long as the latch is not set. -/
theorem run_of_leads (at_stage : t.stage? i = some (.entering deadline))
    (leads : t.cell.arrive m.ttl t.clock = .leads) (unset : t.latch.fault = none) :
    t.run m [.go i, .go i, .go i] =
      (t.atDesk (·.launch i deadline)).atDesk (·.callFetch i t.cell.ticket 0 deadline) := by
  have first : (t.step m (.go i)).2 = t.atDesk (·.launch i deadline) := by
    rw [step_go_of_entering at_stage, enter, leads]
  have attempts : (t.atDesk (·.launch i deadline)).stage? i =
      some (.attempting t.cell.ticket 0 deadline) :=
    Desk.stage?_launch at_stage deadline
  have calls : ((t.atDesk (·.launch i deadline)).atDesk
      (·.setStage i (.calling t.cell.ticket 0 deadline))).stage? i =
        some (.calling t.cell.ticket 0 deadline) :=
    Desk.stage?_setStage_self attempts _
  rw [run, List.foldl_cons, first, List.foldl_cons, step_go_of_attempting attempts unset,
    List.foldl_cons, step_go_of_calling calls, List.foldl_nil]
  exact congrArg (fun d : Desk α => { t with toDesk := d }) (Desk.callFetch_setStage _ _ _ _ _ _)

/-- What becomes of a caller who is about to look at the cell, and then gets on as far as he can. -/
structure AnsweredAsTold (m : Manner) (seconds : Number) (t : Traffic α) (i : Nat)
    (deadline : Option Float) : Prop where
  /-- He is given the landing to remember at once if it is fresh. -/
  served : ∀ delivery, t.chronicle.Offers seconds t.clock delivery →
    (t.step m (.go i)).2.stage? i = some (.done (.ok delivery.value)) ∧
      (t.run m [.go i, .go i, .go i]).calls = t.calls
  /-- He is given no other value. -/
  nothing_else : ∀ value, (t.run m [.go i, .go i, .go i]).stage? i = some (.done (.ok value)) →
    ∃ delivery, t.chronicle.Offers seconds t.clock delivery ∧ delivery.value = value
  /-- Otherwise he waits for the current flight, if one is in progress. -/
  joins : (∀ delivery, ¬ t.chronicle.Offers seconds t.clock delivery) →
    ∀ f, t.chronicle.InProgress f → t.chronicle.IsCurrent f →
      (t.run m [.go i, .go i, .go i]).stage? i = some (.waiting f deadline) ∧
        (t.run m [.go i, .go i, .go i]).calls = t.calls
  /-- Otherwise he starts one and calls the fetch. -/
  leads : (∀ delivery, ¬ t.chronicle.Offers seconds t.clock delivery) →
    (∀ f, t.chronicle.InProgress f → ¬ t.chronicle.IsCurrent f) →
      ∃ f, t.chronicle.generationOf f = none ∧
        (t.run m [.go i, .go i, .go i]).chronicle.InProgress f ∧
        (t.run m [.go i, .go i, .go i]).chronicle.IsCurrent f ∧
        (t.run m [.go i, .go i, .go i]).stage? i =
          some (.fetching t.calls ⟨f, t.chronicle.generation⟩ 0 deadline) ∧
        (t.run m [.go i, .go i, .go i]).calls = t.calls + 1

/-- A current flight is in progress or none is. -/
theorem arrive_cases (order : t.Orderly (some seconds)) :
    (∃ delivery, t.chronicle.Offers seconds t.clock delivery ∧
      t.cell.arrive (some seconds) t.clock = .served delivery.value) ∨
    (∃ f, t.chronicle.InProgress f ∧ t.cell.arrive (some seconds) t.clock = .joins f) ∨
    t.cell.arrive (some seconds) t.clock = .leads := by
  by_cases offered : ∃ delivery, t.chronicle.Offers seconds t.clock delivery
  · obtain ⟨delivery, offers⟩ := offered
    exact .inl ⟨delivery, offers, order.arrive_eq_served_iff.mpr ⟨delivery, offers, rfl⟩⟩
  · have nothing : ∀ delivery, ¬ t.chronicle.Offers seconds t.clock delivery :=
      fun delivery offers => offered ⟨delivery, offers⟩
    by_cases taken : ∃ f, t.chronicle.InProgress f ∧ t.chronicle.IsCurrent f
    · obtain ⟨f, progress, current⟩ := taken
      exact .inr (.inl ⟨f, progress, order.arrive_eq_joins nothing progress current⟩)
    · refine .inr (.inr (order.arrive_eq_leads nothing ?_))
      intro f progress current
      exact taken ⟨f, progress, current⟩

/-- The stage of a caller who led a flight and called the fetch. -/
theorem stage?_of_leads (at_stage : t.stage? i = some (.entering deadline)) :
    ((t.atDesk (·.launch i deadline)).atDesk (·.callFetch i t.cell.ticket 0 deadline)).stage? i =
      some (.fetching t.calls t.cell.ticket 0 deadline) :=
  Desk.stage?_callFetch (Desk.stage?_launch at_stage deadline) t.cell.ticket 0 deadline

theorem answeredAsTold (known : m.ttl = some seconds) (reach : t.Reachable m)
    (unset : t.latch.fault = none) (at_stage : t.stage? i = some (.entering deadline)) :
    t.AnsweredAsTold m seconds i deadline := by
  have order : t.Orderly (some seconds) := known ▸ reach.orderly
  have look : ∀ {found}, t.cell.arrive (some seconds) t.clock = found →
      t.cell.arrive m.ttl t.clock = found := by
    intro found same
    rw [known, same]
  refine ⟨?_, ?_, ?_, ?_⟩
  · intro delivery offers
    have served := look (order.arrive_eq_served_iff.mpr ⟨delivery, offers, rfl⟩)
    refine ⟨?_, by rw [run_of_served at_stage served]; rfl⟩
    rw [step_go_of_entering at_stage, enter, served]
    exact Desk.stage?_serve at_stage delivery.value t.clock
  · intro value ended
    rcases arrive_cases order with ⟨delivery, offers, served⟩ | ⟨f, progress, joins⟩ | leads
    · rw [run_of_served at_stage (look served)] at ended
      cases ended.symm.trans (Desk.stage?_serve at_stage delivery.value t.clock)
      exact ⟨delivery, offers, rfl⟩
    · rw [run_of_joins at_stage (look joins) ((order.endings f).trans progress.2)] at ended
      cases ended.symm.trans (Desk.stage?_join at_stage f deadline)
    · rw [run_of_leads at_stage (look leads) unset] at ended
      cases ended.symm.trans (stage?_of_leads at_stage)
  · intro nothing f progress current
    have joins := look (order.arrive_eq_joins nothing progress current)
    rw [run_of_joins at_stage joins ((order.endings f).trans progress.2)]
    exact ⟨Desk.stage?_join at_stage f deadline, rfl⟩
  · intro nothing free
    have leads := look (order.arrive_eq_leads nothing free)
    have later := (reach.run [.go i, .go i, .go i]).orderly
    rw [run_of_leads at_stage leads unset] at later ⊢
    have here := stage?_of_leads at_stage
    have holds : t.cell.ticket = ⟨t.cell.launched, t.chronicle.generation⟩ := by
      rw [Cell.ticket, order.cell.generation]
    have led := later.leads here rfl
    have current := led.started.trans (congrArg some order.cell.generation)
    exact ⟨t.cell.launched, order.unstarted, led.inProgress, current, holds ▸ here, rfl⟩

/-- Whoever has a value has it from a flight he led or waited for, or it was fresh when he was
served. -/
theorem led_or_fresh (order : t.Orderly (some seconds)) {value : α}
    (ended : t.stage? i = some (.done (.ok value))) :
    (∃ f, (.launched i f ∈ t.chronicle ∨ .joined i f ∈ t.chronicle) ∧
      t.chronicle.outcomeOf f = some (.ok value)) ∨
    ∃ later earlier now delivery, t.chronicle = later ++ .served i value now :: earlier ∧
      Offers earlier seconds now delivery ∧ delivery.value = value := by
  have told := order.callers i
  rw [ended] at told
  obtain ⟨f, brought⟩ := told.brought value rfl
  cases brought with
  | led launched landed => exact .inl ⟨f, .inl launched, landed⟩
  | awaited joined landed => exact .inl ⟨f, .inr joined, landed⟩
  | remembered later earlier now time split toKeep =>
    have lawful := order.lawful
    rw [split] at lawful
    cases lawful.earlier.1 with
    | @served _ _ _ delivery same toKeep' fresh =>
      cases same
      exact .inr ⟨later, earlier, now, delivery, split, ⟨toKeep', fresh⟩, rfl⟩

/-- The supplier does as its chronicle says. As long as the latch is not set a caller comes to look
at the cell and is then answered from the landing to remember if it is fresh at that time, and else
by the current flight; and whoever ever had a value led or awaited the flight that brought it, or
was served while it was fresh. -/
theorem refines_chronicle (m : Manner) (known : m.ttl = some seconds) (reach : t.Reachable m) :
    (t.latch.fault = none →
      (∀ name timeout deadline, t.deadline? timeout = some deadline →
        let called := (t.step m (.call name timeout)).2
        called.stage? t.callers.length = some (.entering deadline) ∧
          called.chronicle = t.chronicle ∧ called.clock = t.clock ∧ called.latch = t.latch) ∧
      ∀ i deadline, t.stage? i = some (.entering deadline) →
        t.AnsweredAsTold m seconds i deadline) ∧
    ∀ i value, t.stage? i = some (.done (.ok value)) →
      (∃ f, (.launched i f ∈ t.chronicle ∨ .joined i f ∈ t.chronicle) ∧
        t.chronicle.outcomeOf f = some (.ok value)) ∨
      ∃ later earlier now delivery, t.chronicle = later ++ .served i value now :: earlier ∧
        Offers earlier seconds now delivery ∧ delivery.value = value := by
  refine ⟨?_, ?_⟩
  · intro unset
    refine ⟨?_, ?_⟩
    · intro name timeout deadline budget
      simp only [step, call, unset, budget]
      exact ⟨(Desk.stage?_welcome _ _ _ _).trans (if_pos rfl), rfl, rfl, rfl⟩
    · intro i deadline at_stage
      exact answeredAsTold known reach unset at_stage
  · intro i value ended
    exact led_or_fresh (known ▸ reach.orderly) ended

/-- The fetch of the first caller brought 7. -/
def oneLanded (m : Manner) : Traffic Nat := (oneInside m).run m [.land 0 (.value 7), .go 0]

theorem oneLanded_eq (m : Manner) : oneLanded m =
    { cell := { memo := some (7, 0), launched := 1 }
      callers := [⟨"first", .done (.ok 7)⟩]
      endings := [(0, .ok 7)]
      calls := 1
      chronicle := [.landed 0 (.ok 7) 0, .called 0 0, .launched 0 0]
      clock := 0 } := by
  rw [oneLanded, oneInside_eq]
  rfl

/-- A second caller comes a while after that. -/
def secondAfter (m : Manner) (seconds : Float) : Traffic Nat :=
  (oneLanded m).run m [.pass seconds, .call "second" none]

theorem reachable_secondAfter (m : Manner) (seconds : Float) :
    (secondAfter m seconds).Reachable m :=
  ((reachable_oneInside m).run _).run _

theorem secondAfter_eq (m : Manner) (seconds : Float) : secondAfter m seconds =
    { cell := { memo := some (7, 0), launched := 1 }
      callers := [⟨"first", .done (.ok 7)⟩, ⟨"second", .entering none⟩]
      endings := [(0, .ok 7)]
      calls := 1
      chronicle := [.landed 0 (.ok 7) 0, .called 0 0, .launched 0 0]
      clock := 0 + seconds } := by
  rw [secondAfter, oneLanded_eq]
  rfl

theorem stage?_secondAfter (m : Manner) (seconds : Float) :
    (secondAfter m seconds).stage? 1 = some (.entering none) := by
  rw [secondAfter_eq]
  rfl

theorem unset_secondAfter (m : Manner) (seconds : Float) :
    (secondAfter m seconds).latch.fault = none := by
  rw [secondAfter_eq]

theorem slot_secondAfter (m : Manner) (seconds : Float) :
    (secondAfter m seconds).cell.flight = none := by
  rw [secondAfter_eq]

theorem kept_secondAfter (m : Manner) (seconds : Float) :
    (secondAfter m seconds).chronicle.kept = some ⟨0, 7, 0⟩ := by
  rw [secondAfter_eq]
  rfl

/-- A second caller joins the flight of the first; one who comes while its landing is fresh is
served; one who comes too late for it fetches anew. -/
theorem refines_chronicle_in_turn :
    let m : Manner := ⟨"session", some (.whole 60), 1⟩
    let joining := (oneInside m).run m [.call "second" none]
    let soon := secondAfter m 59
    let late := secondAfter m 60
    m.ttl = some (.whole 60) ∧ joining.Reachable m ∧ soon.Reachable m ∧ late.Reachable m ∧
      joining.latch.fault = none ∧ soon.latch.fault = none ∧ late.latch.fault = none ∧
      (∀ delivery, ¬ joining.chronicle.Offers (.whole 60) joining.clock delivery) ∧
      (joining.run m [.go 1, .go 1, .go 1]).stage? 1 = some (.waiting 0 none) ∧
      (joining.run m [.go 1, .go 1, .go 1]).calls = joining.calls ∧
      soon.chronicle.Offers (.whole 60) soon.clock ⟨0, 7, 0⟩ ∧
      (soon.step m (.go 1)).2.stage? 1 = some (.done (.ok 7)) ∧
      (soon.run m [.go 1, .go 1, .go 1]).calls = soon.calls ∧
      (∀ delivery, ¬ late.chronicle.Offers (.whole 60) late.clock delivery) ∧
      ∃ f, late.chronicle.generationOf f = none ∧
        (late.run m [.go 1, .go 1, .go 1]).stage? 1 =
          some (.fetching late.calls ⟨f, late.chronicle.generation⟩ 0 none) ∧
        (late.run m [.go 1, .go 1, .go 1]).calls = late.calls + 1 := by
  intro m joining soon late
  have reach : joining.Reachable m := (reachable_oneInside m).run _
  have reach_soon : soon.Reachable m := reachable_secondAfter m 59
  have reach_late : late.Reachable m := reachable_secondAfter m 60
  have unset : joining.latch.fault = none := rfl
  have entering : joining.stage? 1 = some (.entering none) := rfl
  have nothing : ∀ delivery, ¬ joining.chronicle.Offers (.whole 60) joining.clock delivery :=
    fun _ offers => Option.some_ne_none _ offers.kept.symm
  have fresh : soon.chronicle.Offers (.whole 60) soon.clock ⟨0, 7, 0⟩ :=
    ⟨kept_secondAfter m 59, by decide +kernel⟩
  have old : Cell.isFresh (.whole 60) late.clock 0 = false := by decide +kernel
  have stale : ∀ delivery, ¬ late.chronicle.Offers (.whole 60) late.clock delivery := by
    intro delivery offers
    cases Option.some.inj (offers.kept.symm.trans (kept_secondAfter m 60))
    exact Bool.false_ne_true (old.symm.trans offers.fresh)
  have idle : ∀ f, late.chronicle.InProgress f → ¬ late.chronicle.IsCurrent f := by
    intro f progress current
    have slot := (reach_late.orderly.cell.slot f).mpr ⟨progress, current⟩
    exact Option.some_ne_none f (slot.symm.trans (slot_secondAfter m 60))
  have progress : joining.chronicle.InProgress 0 := ⟨Option.some_ne_none 0, rfl⟩
  obtain ⟨waits, no_call⟩ := (((refines_chronicle m rfl reach).1 unset).2 1 none entering).joins
    nothing 0 progress rfl
  obtain ⟨served, no_other_call⟩ := (((refines_chronicle m rfl reach_soon).1
    (unset_secondAfter m 59)).2 1 none (stage?_secondAfter m 59)).served _ fresh
  obtain ⟨f, new, -, -, inside, calls⟩ := (((refines_chronicle m rfl reach_late).1
    (unset_secondAfter m 60)).2 1 none (stage?_secondAfter m 60)).leads stale idle
  exact ⟨rfl, reach, reach_soon, reach_late, unset, unset_secondAfter m 59, unset_secondAfter m 60,
    nothing, waits, no_call, fresh, served, no_other_call, stale, f, new, inside, calls⟩

end Traffic

end CloudSession
