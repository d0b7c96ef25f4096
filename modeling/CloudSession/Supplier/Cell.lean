import CloudSession.Number

/-! # Cell of a cache

What a cache remembers: the value fetched last with the time it landed, how often it was told to
forget, and the fetch under way. Fetches are called flights; each has a number of its own, and the
count of flights so far gives the next one.
-/

namespace CloudSession

abbrev FlightId := Nat

structure Cell (α : Type) where
  memo : Option (α × Float) := none
  generation : Nat := 0
  flight : Option FlightId := none
  launched : Nat := 0

/-- What the leader of a flight holds: the flight, and the generation it left in. -/
structure Ticket where
  flight : FlightId
  generation : Nat
  deriving Repr, DecidableEq

inductive Arrival (α : Type) where
  | served (value : α)
  | joins (flight : FlightId)
  /-- Nothing: the caller is to fetch. -/
  | leads
  /-- A value of which nobody can tell whether it is fresh. -/
  | unjudged

namespace Cell

variable {α : Type}

/-- Whether what landed at `landed` is fresh at `now`. -/
def isFresh (ttl : Number) (now landed : Float) : Bool := (Number.real (now - landed)).lt ttl

/-- What a caller finds at `now`. There may be no number of seconds for which a value stays fresh,
which does not matter as long as no value is remembered. -/
def arrive (cell : Cell α) (ttl : Option Number) (now : Float) : Arrival α :=
  match cell.memo, ttl, cell.flight with
  | none, _, none => .leads
  | none, _, some flight => .joins flight
  | some _, none, _ => .unjudged
  | some (value, landed), some ttl, flight =>
    if isFresh ttl now landed then .served value
    else match flight with
      | none => .leads
      | some flight => .joins flight

def ticket (cell : Cell α) : Ticket := ⟨cell.launched, cell.generation⟩

def launch (cell : Cell α) : Cell α :=
  { cell with flight := some cell.launched, launched := cell.launched + 1 }

/-- End a flight. Its value is remembered unless the cache was told to forget meanwhile. -/
def land (cell : Cell α) (ticket : Ticket) (now : Float) (value : Option α) : Cell α :=
  let memo := match value with
    | some v => if ticket.generation = cell.generation then some (v, now) else cell.memo
    | none => cell.memo
  { cell with
    memo := memo
    flight := if cell.flight = some ticket.flight then none else cell.flight }

/-- Forget the value and let the next caller start a flight of its own. -/
def invalidate (cell : Cell α) : Cell α :=
  { cell with memo := none, generation := cell.generation + 1, flight := none }

/-- Whoever arrives at a cell that was told to forget is to fetch. -/
@[simp]
theorem arrive_invalidate (cell : Cell α) (ttl : Option Number) (now : Float) :
    cell.invalidate.arrive ttl now = .leads := rfl

/-- A caller is served exactly what is remembered and fresh. -/
theorem arrive_eq_served_iff {cell : Cell α} {ttl : Option Number} {now : Float} {value : α} :
    cell.arrive ttl now = .served value ↔ ∃ seconds landed, ttl = some seconds ∧
      cell.memo = some (value, landed) ∧ isFresh seconds now landed := by
  obtain ⟨memo, generation, flight, launched⟩ := cell
  cases memo with
  | none => cases flight <;> simp [arrive]
  | some remembered =>
    obtain ⟨value', landed⟩ := remembered
    cases ttl with
    | none => simp [arrive]
    | some seconds =>
      by_cases fresh : isFresh seconds now landed
      · simp only [arrive, fresh, if_true, Arrival.served.injEq]
        constructor
        · rintro rfl
          exact ⟨seconds, landed, rfl, rfl, fresh⟩
        · rintro ⟨_, _, _, same, _⟩
          cases same
          rfl
      · cases flight <;> simp [arrive, fresh]

/-- Where nothing is fresh the slot decides. -/
theorem arrive_of_not_fresh {cell : Cell α} {seconds : Number} {now : Float}
    (stale : ∀ value landed, cell.memo = some (value, landed) → ¬ isFresh seconds now landed) :
    cell.arrive (some seconds) now =
      match cell.flight with
      | some flight => .joins flight
      | none => .leads := by
  obtain ⟨memo, generation, flight, launched⟩ := cell
  cases memo with
  | none => cases flight <;> rfl
  | some remembered =>
    have old := stale remembered.1 remembered.2 rfl
    cases flight <;> simp [arrive, old]

/-- Where nothing is remembered and nothing under way, whoever arrives is to fetch. -/
theorem arrive_of_empty {cell : Cell α} {ttl : Option Number} {now : Float}
    (memo : cell.memo = none) (flight : cell.flight = none) : cell.arrive ttl now = .leads := by
  simp only [arrive, memo, flight]

theorem flight_of_arrive_joins {cell : Cell α} {ttl : Option Number} {now : Float}
    {flight : FlightId} (joins : cell.arrive ttl now = .joins flight) :
    cell.flight = some flight := by
  unfold arrive at joins
  grind

theorem flight_of_arrive_leads {cell : Cell α} {ttl : Option Number} {now : Float}
    (leads : cell.arrive ttl now = .leads) : cell.flight = none := by
  unfold arrive at leads
  grind

theorem ttl_of_arrive_unjudged {cell : Cell α} {ttl : Option Number} {now : Float}
    (unjudged : cell.arrive ttl now = .unjudged) : ttl = none := by
  unfold arrive at unjudged
  grind

/-- What is remembered once a flight landed is what it brought at that time, or was remembered
before. -/
theorem memo_of_land {cell : Cell α} {ticket : Ticket} {now landed : Float} {brought : Option α}
    {value : α} (memo : (cell.land ticket now brought).memo = some (value, landed)) :
    brought = some value ∧ now = landed ∨ cell.memo = some (value, landed) := by
  unfold land at memo
  grind

/-- A flight that landed is no longer under way. -/
theorem flight_land_ne (cell : Cell α) (ticket : Ticket) (now : Float) (value : Option α) :
    (cell.land ticket now value).flight ≠ some ticket.flight := by
  by_cases own : cell.flight = some ticket.flight <;> simp [land, own]

end Cell

end CloudSession
