import CloudSession.Proofs.Supplier.Step

/-! # What forgetting rules out

An order to forget comes before every later call: whoever calls after it has his value from a
flight that started after it, whether he led the flight, waited for it or was served, and no flight
from before it is ever remembered, however late it lands.
-/

namespace CloudSession

open Chronicle

variable {α : Type} {ttl : Option Number} {recent : Chronicle α}

namespace Desk

variable {d later : Desk α}

/-- A flight of a generation after the present one has not started yet. -/
theorem unstarted_of_later {f : FlightId} {n : Nat} (lawful : Lawful ttl later.chronicle)
    (added : later.chronicle = recent ++ .forgotten :: d.chronicle)
    (of_later : later.chronicle.generationOf f = some n) (after : d.chronicle.generation < n) :
    d.chronicle.generationOf f = none := by
  by_contra started
  obtain ⟨k, started⟩ := Option.ne_none_iff_exists'.mp started
  have forgotten : generationOf f (.forgotten :: d.chronicle) = some k := started
  rw [added] at lawful of_later
  have same := lawful.generationOf_append forgotten
  rw [of_later] at same
  cases same
  exact absurd (generationOf_le started) (Nat.not_le_of_lt after)

/-- Whoever came after the order has his value from a flight of a later generation. -/
theorem newer_of_newcomer (before : d.Orderly ttl) (order : later.Orderly ttl)
    (added : later.chronicle = recent ++ .forgotten :: d.chronicle) {i : Nat} {value : α}
    (came_after : d.callers.length ≤ i) (ended : later.stage? i = some (.done (.ok value))) :
    ∃ f n, later.chronicle.Brought i value f ∧ d.chronicle.generation < n ∧
      later.chronicle.generationOf f = some n := by
  have silent : Chronicle.Silent (.forgotten :: d.chronicle) i := by
    have told := before.callers i
    rw [Desk.stage?_eq_none came_after] at told
    exact Silent.cons told (by simp [Happening.caller?])
  have told := order.callers i
  rw [ended] at told
  obtain ⟨f, brought⟩ := told.brought value rfl
  have lawful := order.lawful
  have brought_since := brought
  rw [added] at lawful brought_since
  obtain ⟨n, newer, started⟩ := lawful.le_generationOf_of_brought silent brought_since
  exact ⟨f, n, brought, newer, added ▸ started⟩

/-- Whoever came after the order has his value from a flight that had not started. -/
theorem brought_since (before : d.Orderly ttl) (order : later.Orderly ttl)
    (added : later.chronicle = recent ++ .forgotten :: d.chronicle) {i : Nat} {value : α}
    (came_after : d.callers.length ≤ i) (ended : later.stage? i = some (.done (.ok value))) :
    ∃ f, later.chronicle.outcomeOf f = some (.ok value) ∧ d.chronicle.generationOf f = none := by
  obtain ⟨f, n, brought, newer, started⟩ := newer_of_newcomer before order added came_after ended
  exact ⟨f, order.lawful.outcomeOf_of_brought brought,
    unstarted_of_later order.lawful added started newer⟩

/-- What is remembered after the order was brought by a flight of a later generation. -/
theorem newer_of_memo (order : later.Orderly ttl)
    (added : later.chronicle = recent ++ .forgotten :: d.chronicle) {value : α} {time : Float}
    (remembered : later.cell.memo = some (value, time)) :
    ∃ f n, later.chronicle.kept = some ⟨f, value, time⟩ ∧ d.chronicle.generation < n ∧
      later.chronicle.generationOf f = some n := by
  rw [order.cell.memo] at remembered
  obtain ⟨delivery, toKeep, same⟩ := Option.map_eq_some_iff.mp remembered
  cases same
  have newer : d.chronicle.generation < later.chronicle.generation := by
    rw [added]
    exact generation_le_append recent (.forgotten :: d.chronicle)
  exact ⟨delivery.flight, _, toKeep, newer, (order.lawful.of_kept toKeep).1⟩

end Desk

namespace Traffic

variable {t : Traffic α} {m : Manner}

/-- Whoever calls after an order to forget has his value from a flight that started after it, and
so was whatever is remembered after it. -/
theorem brought_after_invalidate (m : Manner) (reach : t.Reachable m) (events : List (Event α)) :
    let later := (t.step m .invalidate).2.run m events
    (∀ i value, t.callers.length ≤ i → later.stage? i = some (.done (.ok value)) →
      ∃ f, later.chronicle.Brought i value f ∧ later.chronicle.generationOf f ≠ none ∧
        t.chronicle.generationOf f = none) ∧
    ∀ value time, later.cell.memo = some (value, time) →
      ∃ f, later.chronicle.kept = some ⟨f, value, time⟩ ∧ t.chronicle.generationOf f = none := by
  intro later
  have order : later.Orderly m.ttl := orderly_run m (orderly_step m reach.orderly _) events
  obtain ⟨recent, added, -⟩ := chronicle_run m (t.step m .invalidate).2 events
  change later.chronicle = recent ++ .forgotten :: t.chronicle at added
  constructor
  · intro i value came_after ended
    obtain ⟨f, n, brought, newer, started⟩ :=
      Desk.newer_of_newcomer reach.orderly order added came_after ended
    refine ⟨f, brought, ?_, Desk.unstarted_of_later order.lawful added started newer⟩
    rw [started]
    exact Option.some_ne_none n
  · intro value time remembered
    obtain ⟨f, n, toKeep, newer, started⟩ := Desk.newer_of_memo order added remembered
    exact ⟨f, toKeep, Desk.unstarted_of_later order.lawful added started newer⟩

/-- A flight is in progress when the order comes, and lands before the one that starts later. -/
theorem brought_after_invalidate_while_inside :
    let m : Manner := ⟨"session", some (.whole 60), 1⟩
    let events : List (Event Nat) :=
      [.call "second" none, .go 1, .go 1, .go 1, .land 0 (.value 7), .go 0, .land 1 (.value 8),
        .go 1]
    let later := ((oneInside m).step m .invalidate).2.run m events
    (oneInside m).Reachable m ∧ (oneInside m).callers.length ≤ 1 ∧
      later.stage? 0 = some (.done (.ok 7)) ∧ later.stage? 1 = some (.done (.ok 8)) ∧
      ∃ f, later.chronicle.Brought 1 8 f ∧ later.chronicle.generationOf f ≠ none ∧
        (oneInside m).chronicle.generationOf f = none :=
  ⟨reachable_oneInside _, Nat.le_refl 1, rfl, rfl,
    (brought_after_invalidate _ (reachable_oneInside _) _).1 1 8 (Nat.le_refl 1) rfl⟩

end Traffic

end CloudSession
