import CloudSession.Supplier.Chronicle
import Mathlib.Tactic.Common

/-! # Lawful chronicles

What a cache with a perfect memory would let happen: a flight starts only where no current one is
in progress, a caller joins only a current one, a value is served only while the landing to
remember is fresh, and only a flight in progress calls the fetch or lands. Whatever is to be
said of one flight at a time follows from that alone; which cache keeps to it is another question.
-/

namespace CloudSession.Chronicle

variable {α : Type} {ttl : Option Number} {h : Happening α} {c recent : Chronicle α}
variable {f g : FlightId}

/-- What may happen after a chronicle. -/
inductive Follows (ttl : Option Number) (c : Chronicle α) : Happening α → Prop where
  | launched {i : Nat} {f : FlightId} : c.generationOf f = none →
    (∀ g, c.InProgress g → ¬ c.IsCurrent g) → Follows ttl c (.launched i f)
  | joined {i : Nat} {f : FlightId} : c.InProgress f → c.IsCurrent f →
    Follows ttl c (.joined i f)
  | served {i : Nat} {now : Float} {seconds : Number} {delivery : Delivery α} :
    ttl = some seconds → c.kept = some delivery → Cell.isFresh seconds now delivery.time →
    Follows ttl c (.served i delivery.value now)
  | called {f : FlightId} {call : Nat} : c.InProgress f → Follows ttl c (.called f call)
  | landed {f : FlightId} {outcome : Except FaultId α} {time : Float} : c.InProgress f →
    Follows ttl c (.landed f outcome time)
  | gaveUp {i : Nat} : Follows ttl c (.gaveUp i)
  | forgotten : Follows ttl c .forgotten

/-- Everything happened after what it may follow. -/
def Lawful (ttl : Option Number) : Chronicle α → Prop
  | [] => True
  | h :: c => Follows ttl c h ∧ Lawful ttl c

theorem Lawful.earlier (lawful : Lawful ttl (recent ++ c)) : Lawful ttl c := by
  induction recent with
  | nil => exact lawful
  | cons h recent ih => exact ih lawful.2

theorem calls_called (f : FlightId) (call : Nat) (c : Chronicle α) :
    calls (.called f call :: c) = c.calls + 1 :=
  List.countP_cons_of_pos rfl

/-! ## Generations -/

/-- Time only adds to the times a supplier forgot. -/
theorem generation_le_append (recent c : Chronicle α) :
    c.generation ≤ generation (recent ++ c) := by
  induction recent with
  | nil => exact Nat.le_refl _
  | cons h recent ih =>
    cases h <;> simp only [List.cons_append, generation] <;> omega

/-- No flight comes from a later generation. -/
theorem generationOf_le {n : Nat} (started : c.generationOf f = some n) : n ≤ c.generation := by
  induction c with
  | nil => simp [generationOf] at started
  | cons h c ih =>
    cases h with
    | launched i f' =>
      simp only [generationOf] at started
      split at started
      · exact Nat.le_of_eq (Option.some.inj started).symm
      · exact ih started
    | forgotten => exact Nat.le_succ_of_le (ih started)
    | _ => exact ih started

/-- Forgetting is what makes a generation end. -/
theorem generation_append_of_no_forgotten (kept : .forgotten ∉ recent) :
    generation (recent ++ c) = c.generation := by
  induction recent with
  | nil => rfl
  | cons h recent ih =>
    have rest : .forgotten ∉ recent := fun later => kept (List.mem_cons_of_mem h later)
    cases h with
    | forgotten => exact absurd List.mem_cons_self kept
    | _ => exact ih rest

/-- What started before did not start since. -/
theorem generationOf_append_of_no_launched (none_since : ∀ i, .launched i f ∉ recent) :
    generationOf f (recent ++ c) = c.generationOf f := by
  induction recent with
  | nil => rfl
  | cons h recent ih =>
    have rest := ih fun i later => none_since i (List.mem_cons_of_mem h later)
    cases h with
    | launched i f' =>
      have other : f' ≠ f := by
        rintro rfl
        exact none_since i List.mem_cons_self
      simpa [generationOf, other] using rest
    | _ => exact rest

theorem generationOf_ne_none_iff : c.generationOf f ≠ none ↔ ∃ i, .launched i f ∈ c := by
  induction c with
  | nil => simp [generationOf]
  | cons h c ih =>
    cases h with
    | launched i f' =>
      by_cases same : f' = f
      · subst same
        simp [generationOf]
      · simp [generationOf, same, Ne.symm same, ih]
    | _ => simp [generationOf, ih]

theorem generationOf_ne_none_of_mem {i : Nat} (launched : .launched i f ∈ c) :
    c.generationOf f ≠ none :=
  generationOf_ne_none_iff.mpr ⟨i, launched⟩

/-- A flight starts once, so the generation it started in stays what it is. -/
theorem Lawful.generationOf_cons (lawful : Lawful ttl (h :: c)) {n : Nat}
    (started : c.generationOf f = some n) : generationOf f (h :: c) = some n := by
  cases lawful.1 with
  | @launched i f' new _ =>
    have other : f' ≠ f := by
      rintro rfl
      rw [started] at new
      cases new
    simpa [generationOf, other] using started
  | _ => exact started

theorem Lawful.generationOf_append (lawful : Lawful ttl (recent ++ c)) {n : Nat}
    (started : c.generationOf f = some n) : generationOf f (recent ++ c) = some n := by
  induction recent with
  | nil => exact started
  | cons h recent ih => exact Lawful.generationOf_cons lawful (ih lawful.2)

theorem Lawful.started_append (lawful : Lawful ttl (recent ++ c))
    (started : c.generationOf f ≠ none) : generationOf f (recent ++ c) ≠ none := by
  obtain ⟨n, known⟩ := Option.ne_none_iff_exists'.mp started
  rw [lawful.generationOf_append known]
  exact Option.some_ne_none n

theorem Lawful.launcher_unique (lawful : Lawful ttl c) {i j : Nat} (first : .launched i f ∈ c)
    (second : .launched j f ∈ c) : i = j := by
  induction c with
  | nil => cases first
  | cons h c ih =>
    rcases List.mem_cons.mp first with rfl | firstIn <;>
      rcases List.mem_cons.mp second with last | secondIn
    · cases last
      rfl
    · cases lawful.1 with
      | launched new _ => exact absurd new (generationOf_ne_none_of_mem secondIn)
    · cases last
      cases lawful.1 with
      | launched new _ => exact absurd new (generationOf_ne_none_of_mem firstIn)
    · exact ih lawful.2 firstIn secondIn

/-! ## Landings -/

/-- Only what started ends. -/
theorem Lawful.started_of_outcome (lawful : Lawful ttl c) {outcome : Except FaultId α}
    (ended : c.outcomeOf f = some outcome) : c.generationOf f ≠ none := by
  induction c with
  | nil => simp [outcomeOf] at ended
  | cons h c ih =>
    have step : generationOf f c ≠ none → generationOf f (h :: c) ≠ none := by
      intro started
      obtain ⟨n, started⟩ := Option.ne_none_iff_exists'.mp started
      rw [lawful.generationOf_cons started]
      exact Option.some_ne_none n
    cases h with
    | landed f' outcome' time =>
      by_cases same : f' = f
      · subst same
        cases lawful.1 with
        | landed progress => exact step progress.1
      · simp only [outcomeOf, same, if_false] at ended
        exact step (ih lawful.2 ended)
    | _ => exact step (ih lawful.2 ended)

theorem Lawful.started_of_joined (lawful : Lawful ttl c) (joined : .joined i f ∈ c) :
    c.generationOf f ≠ none := by
  obtain ⟨later, earlier, rfl⟩ := List.append_of_mem joined
  cases lawful.earlier.1 with
  | joined progress => exact lawful.started_append progress.1

theorem Lawful.started_of_called (lawful : Lawful ttl c) {call : Nat}
    (called : .called f call ∈ c) : c.generationOf f ≠ none := by
  obtain ⟨later, earlier, rfl⟩ := List.append_of_mem called
  cases lawful.earlier.1 with
  | called progress => exact lawful.started_append progress.1

/-- A flight lands once, so its outcome stays what it is. -/
theorem Lawful.outcomeOf_cons (lawful : Lawful ttl (h :: c)) {outcome : Except FaultId α}
    (ended : c.outcomeOf f = some outcome) : outcomeOf f (h :: c) = some outcome := by
  cases lawful.1 with
  | @landed f' _ _ progress =>
    have other : f' ≠ f := by
      rintro rfl
      rw [progress.2] at ended
      cases ended
    simpa [outcomeOf, other] using ended
  | _ => exact ended

theorem Lawful.outcomeOf_append (lawful : Lawful ttl (recent ++ c)) {outcome : Except FaultId α}
    (ended : c.outcomeOf f = some outcome) : outcomeOf f (recent ++ c) = some outcome := by
  induction recent with
  | nil => exact ended
  | cons h recent ih => exact Lawful.outcomeOf_cons lawful (ih lawful.2)

/-- What is in progress later, and had started, was in progress before. -/
theorem Lawful.inProgress_of_cons (lawful : Lawful ttl (h :: c))
    (started : c.generationOf f ≠ none) (later : InProgress (h :: c) f) : c.InProgress f := by
  refine ⟨started, ?_⟩
  cases ended : c.outcomeOf f with
  | none => rfl
  | some outcome =>
    have still := lawful.outcomeOf_cons ended
    rw [later.2] at still
    cases still

/-- What is in progress later, and had started, was in progress at every moment between. -/
theorem Lawful.inProgress_of_append (lawful : Lawful ttl (recent ++ c))
    (started : c.generationOf f ≠ none) (later : InProgress (recent ++ c) f) : c.InProgress f := by
  induction recent with
  | nil => exact later
  | cons h recent ih =>
    have before := Lawful.started_append lawful.2 started
    exact ih lawful.2 (Lawful.inProgress_of_cons lawful before later)

/-! ## One flight at a time -/

theorem generationOf_launched_self {i : Nat} :
    generationOf f (.launched i f :: c) = some c.generation :=
  if_pos rfl

theorem generationOf_launched_of_ne {i : Nat} {new : FlightId} (other : new ≠ f) :
    generationOf f (.launched i new :: c) = c.generationOf f :=
  if_neg other

theorem inProgress_launched_of_ne {i : Nat} {new : FlightId} (other : new ≠ f) :
    InProgress (.launched i new :: c) f ↔ c.InProgress f := by
  simp only [InProgress, generationOf_launched_of_ne other, outcomeOf]

/-- The flight that starts is the only one of its generation in progress. -/
theorem Lawful.eq_of_launched {i : Nat} {new : FlightId}
    (lawful : Lawful ttl (.launched i new :: c)) (progress : InProgress (.launched i new :: c) f)
    (same : generationOf f (.launched i new :: c) = some c.generation) : f = new := by
  by_contra other
  rw [inProgress_launched_of_ne (Ne.symm other)] at progress
  rw [generationOf_launched_of_ne (Ne.symm other)] at same
  cases lawful.1 with
  | launched _ free => exact free f progress same

/-- Two flights in progress are of two generations. -/
theorem Lawful.inProgress_unique (lawful : Lawful ttl c) (first : c.InProgress f)
    (second : c.InProgress g) (same : c.generationOf f = c.generationOf g) : f = g := by
  induction c with
  | nil => exact absurd rfl first.1
  | cons h c ih =>
    cases h with
    | launched i new =>
      by_cases hf : new = f
      · subst hf
        rw [generationOf_launched_self] at same
        exact (lawful.eq_of_launched second same.symm).symm
      · by_cases hg : new = g
        · subst hg
          rw [generationOf_launched_self] at same
          exact lawful.eq_of_launched first same
        · rw [inProgress_launched_of_ne hf] at first
          rw [inProgress_launched_of_ne hg] at second
          rw [generationOf_launched_of_ne hf, generationOf_launched_of_ne hg] at same
          exact ih lawful.2 first second same
    | landed ended outcome time =>
      have first_before := lawful.inProgress_of_cons first.1 first
      have second_before := lawful.inProgress_of_cons second.1 second
      exact ih lawful.2 first_before second_before same
    | _ => exact ih lawful.2 first second same

/-- The landing to remember is that of a current flight. -/
theorem Lawful.of_kept (lawful : Lawful ttl c) {delivery : Delivery α}
    (toKeep : c.kept = some delivery) :
    c.IsCurrent delivery.flight ∧ c.outcomeOf delivery.flight = some (.ok delivery.value) := by
  induction c with
  | nil => simp [kept] at toKeep
  | cons h c ih =>
    -- What was true before stays true, unless something was forgotten.
    have carry : kept c = some delivery → generation (h :: c) = generation c →
        IsCurrent (h :: c) delivery.flight ∧
          outcomeOf delivery.flight (h :: c) = some (.ok delivery.value) := by
      intro earlier same
      obtain ⟨current, brought⟩ := ih lawful.2 earlier
      refine ⟨?_, lawful.outcomeOf_cons brought⟩
      have started := lawful.generationOf_cons current
      rwa [← same] at started
    cases h with
    | forgotten => simp [kept] at toKeep
    | landed ended outcome time =>
      cases outcome with
      | error fault => exact carry toKeep rfl
      | ok value =>
        simp only [kept] at toKeep
        split at toKeep
        · rename_i current
          cases toKeep
          exact ⟨current, by simp [outcomeOf]⟩
        · exact carry toKeep rfl
    | _ => exact carry toKeep rfl

/-! ## After a moment of the past -/

theorem Brought.cons {i : Nat} {value : α} (brought : c.Brought i value f)
    (lawful : Lawful ttl (h :: c)) : Brought (h :: c) i value f := by
  cases brought with
  | led launched ended =>
    exact .led (List.mem_cons_of_mem h launched) (lawful.outcomeOf_cons ended)
  | awaited joined ended =>
    exact .awaited (List.mem_cons_of_mem h joined) (lawful.outcomeOf_cons ended)
  | remembered later earlier now time split toKeep =>
    subst split
    exact .remembered (h :: later) earlier now time rfl toKeep

theorem Lawful.outcomeOf_of_brought {i : Nat} {value : α} (lawful : Lawful ttl c)
    (brought : c.Brought i value f) : c.outcomeOf f = some (.ok value) := by
  cases brought with
  | led _ ended => exact ended
  | awaited _ ended => exact ended
  | remembered later earlier now time split toKeep =>
    rw [split, List.append_cons] at lawful ⊢
    have before := (lawful.earlier.of_kept toKeep).2
    exact lawful.outcomeOf_append before

/-- Whatever happened since followed what was before it. -/
theorem Lawful.follows_of_mem (lawful : Lawful ttl (recent ++ c)) (member : h ∈ recent) :
    ∃ later earlier, recent = later ++ h :: earlier ∧ Lawful ttl (h :: (earlier ++ c)) := by
  obtain ⟨later, earlier, rfl⟩ := List.append_of_mem member
  rw [List.append_assoc] at lawful
  exact ⟨later, earlier, rfl, lawful.earlier⟩

/-- A flight that was current at some moment is of a generation no older than that of any moment
before. -/
theorem Lawful.le_generationOf (later earlier : Chronicle α)
    (lawful : Lawful ttl ((later ++ earlier) ++ c)) (current : IsCurrent (earlier ++ c) f) :
    ∃ n, c.generation ≤ n ∧ generationOf f ((later ++ earlier) ++ c) = some n := by
  rw [List.append_assoc] at lawful ⊢
  exact ⟨_, generation_le_append earlier c, lawful.generationOf_append current⟩

theorem Lawful.le_generationOf_of_launched {i : Nat} (lawful : Lawful ttl (recent ++ c))
    (launched : .launched i f ∈ recent) :
    ∃ n, c.generation ≤ n ∧ generationOf f (recent ++ c) = some n := by
  obtain ⟨later, earlier, rfl, -⟩ := lawful.follows_of_mem launched
  exact lawful.le_generationOf later (.launched i f :: earlier) generationOf_launched_self

theorem Lawful.le_generationOf_of_joined {i : Nat} (lawful : Lawful ttl (recent ++ c))
    (joined : .joined i f ∈ recent) :
    ∃ n, c.generation ≤ n ∧ generationOf f (recent ++ c) = some n := by
  obtain ⟨later, earlier, rfl, followed⟩ := lawful.follows_of_mem joined
  cases followed.1 with
  | joined _ current => exact lawful.le_generationOf later (.joined i f :: earlier) current

theorem Lawful.le_generationOf_of_kept {i : Nat} {value : α} {now time : Float}
    {later earlier : Chronicle α}
    (lawful : Lawful ttl ((later ++ .served i value now :: earlier) ++ c))
    (toKeep : kept (earlier ++ c) = some ⟨f, value, time⟩) :
    ∃ n, c.generation ≤ n ∧
      generationOf f ((later ++ .served i value now :: earlier) ++ c) = some n := by
  have before := lawful
  rw [List.append_assoc] at before
  have current := (before.earlier.2 : Lawful ttl (earlier ++ c)).of_kept toKeep
  exact lawful.le_generationOf later (.served i value now :: earlier) current.1

/-- A caller who came after some moment has his value from a flight that was current later. -/
theorem Lawful.le_generationOf_of_brought {i : Nat} {value : α}
    (lawful : Lawful ttl (recent ++ c)) (unknown : ∀ h ∈ c, h.caller? ≠ some i)
    (brought : Brought (recent ++ c) i value f) :
    ∃ n, c.generation ≤ n ∧ generationOf f (recent ++ c) = some n := by
  have since : ∀ {h}, h ∈ recent ++ c → h.caller? = some i → h ∈ recent := by
    intro h member his
    rcases List.mem_append.mp member with after | before
    · exact after
    · exact absurd his (unknown h before)
  cases brought with
  | led launched _ => exact lawful.le_generationOf_of_launched (since launched rfl)
  | awaited joined _ => exact lawful.le_generationOf_of_joined (since joined rfl)
  | remembered later earlier now time split toKeep =>
    -- The value was served after that moment, so the moment lies in what was earlier.
    obtain ⟨between, rfl, rfl⟩ : ∃ between, recent = later ++ .served i value now :: between ∧
        earlier = between ++ c := by
      have notBefore : .served i value now ∉ c := fun before => unknown _ before rfl
      rcases List.append_eq_append_iff.mp split with ⟨between, rfl, rfl⟩ | ⟨between, rfl, after⟩
      · simp at notBefore
      · cases between with
        | nil =>
          obtain rfl : _ = c := after
          simp at notBefore
        | cons h between =>
          obtain ⟨rfl, rfl⟩ := List.cons.inj after
          exact ⟨between, rfl, rfl⟩
    exact lawful.le_generationOf_of_kept toKeep

/-! ## While a current flight is in progress -/

theorem Lawful.isCurrent_append (lawful : Lawful ttl (recent ++ c)) (keeps : .forgotten ∉ recent)
    (current : c.IsCurrent f) : IsCurrent (recent ++ c) f := by
  rw [IsCurrent, generation_append_of_no_forgotten keeps]
  exact lawful.generationOf_append current

section Meanwhile

variable (lawful : Lawful ttl (recent ++ c)) (keeps : .forgotten ∉ recent)
variable (current : c.IsCurrent f) (still : InProgress (recent ++ c) f)

include lawful keeps current still

/-- It was current and in progress whenever something happened. -/
theorem Lawful.meanwhile (member : h ∈ recent) :
    ∃ earlier, (∀ h' ∈ earlier, h' ∈ recent) ∧ Lawful ttl (h :: (earlier ++ c)) ∧
      InProgress (earlier ++ c) f ∧ IsCurrent (earlier ++ c) f := by
  obtain ⟨later, earlier, rfl, followed⟩ := lawful.follows_of_mem member
  have within : ∀ h' ∈ earlier, h' ∈ later ++ h :: earlier :=
    fun h' before => List.mem_append_right _ (List.mem_cons_of_mem h before)
  have current_then : IsCurrent (earlier ++ c) f :=
    Lawful.isCurrent_append followed.2 (fun before => keeps (within _ before)) current
  have started : generationOf f (earlier ++ c) ≠ none := by
    rw [current_then]
    exact Option.some_ne_none _
  have moment : (later ++ h :: earlier) ++ c = (later ++ [h]) ++ (earlier ++ c) := by simp
  rw [moment] at lawful still
  exact ⟨earlier, within, followed, lawful.inProgress_of_append started still, current_then⟩

/-- No other flight starts. -/
theorem Lawful.no_launch (i : Nat) (g : FlightId) : .launched i g ∉ recent := by
  intro launched
  obtain ⟨earlier, -, followed, progress, current_then⟩ :=
    lawful.meanwhile keeps current still launched
  cases followed.1 with
  | launched _ free => exact free f progress current_then

/-- Whoever waits from then on waits for it. -/
theorem Lawful.joined_only {i : Nat} (joined : .joined i g ∈ recent) : g = f := by
  obtain ⟨earlier, -, followed, progress, current_then⟩ :=
    lawful.meanwhile keeps current still joined
  cases followed.1 with
  | joined progress' current' =>
    exact followed.2.inProgress_unique progress' progress (Eq.trans current' current_then.symm)

/-- Besides it only flights of generations that ended before call the fetch. -/
theorem Lawful.called_only {call : Nat} (called : .called g call ∈ recent) :
    g = f ∨ ∃ n, n < c.generation ∧ c.generationOf g = some n := by
  obtain ⟨earlier, within, followed, progress, current_then⟩ :=
    lawful.meanwhile keeps current still called
  cases followed.1 with
  | called progress' =>
    by_cases same : generationOf g (earlier ++ c) = generationOf f (earlier ++ c)
    · exact .inl (followed.2.inProgress_unique progress' progress same)
    · obtain ⟨n, started⟩ := Option.ne_none_iff_exists'.mp progress'.1
      have old : n ≠ generation (earlier ++ c) := by
        rintro rfl
        exact same (started.trans current_then.symm)
      have not_later := generationOf_le started
      rw [generation_append_of_no_forgotten fun before => keeps (within _ before)] at old not_later
      rw [generationOf_append_of_no_launched fun i before =>
        lawful.no_launch keeps current still i g (within _ before)] at started
      exact .inr ⟨n, by omega, started⟩

end Meanwhile

end CloudSession.Chronicle
