import CloudSession.Proofs.Http.Keeping
import CloudSession.Proofs.Http.Lease

/-! # Passes of a request

A request passes through its filters once for each attempt. What the transport answers is what the
rest of the passes answer at whichever pass it comes to, and each pass sends one request.
-/

namespace CloudSession.Client

open Act

variable {σ : Type} [Wired σ] {c : Client σ} {asked current : Request} {timeout : Value}
variable {start w w' : World σ} {failures : Nat}

/-- A request comes to a pass after some failures. -/
inductive Comes (c : Client σ) (asked : Request) (timeout : Value) (start : World σ) :
    Nat → World σ → Prop where
  | first : Comes c asked timeout start 0 start
  | again {failures limit : Nat} {w w' : World σ} {due : Due} :
    Comes c asked timeout start failures w → c.limit? = some limit → failures < limit →
    (c.trip asked timeout failures).play w = (.ok (.error due), w') →
    Comes c asked timeout start (failures + 1) w'

/-- The passes from one on. -/
def rest (c : Client σ) (asked : Request) (timeout : Value) (failures : Nat) : Act σ ResponseId :=
  match c.limit? with
  | some limit => c.trips asked timeout (limit - failures) failures
  | none => c.tripThen asked timeout failures Transport.loseCount

theorem play_tripThen_of_error {next : Due → Act σ ResponseId} {i : FaultId}
    (failed : (c.trip asked timeout failures).play w = (.error i, w')) :
    (c.tripThen asked timeout failures next).play w = (.error i, w') := by
  rw [tripThen_eq, play_bind_of_error failed]

theorem play_tripThen_of_over {next : Due → Act σ ResponseId} {response : ResponseId}
    (answered : (c.trip asked timeout failures).play w = (.ok (.ok response), w')) :
    (c.tripThen asked timeout failures next).play w = (.ok response, w') := by
  rw [tripThen_eq, play_bind_of_ok answered, play_pure]

theorem play_tripThen_of_due {next : Due → Act σ ResponseId} {due : Due}
    (missed : (c.trip asked timeout failures).play w = (.ok (.error due), w')) :
    (c.tripThen asked timeout failures next).play w = (next due).play w' := by
  rw [tripThen_eq, play_bind_of_ok missed]

/-- A pass that fails is the last one. -/
theorem play_rest_of_error {i : FaultId}
    (failed : (c.trip asked timeout failures).play w = (.error i, w')) :
    (c.rest asked timeout failures).play w = (.error i, w') := by
  unfold rest
  split
  · rename_i limit known
    cases limit - failures <;> exact play_tripThen_of_error failed
  · exact play_tripThen_of_error failed

/-- So is one that ends with a response. -/
theorem play_rest_of_over {response : ResponseId}
    (answered : (c.trip asked timeout failures).play w = (.ok (.ok response), w')) :
    (c.rest asked timeout failures).play w = (.ok response, w') := by
  unfold rest
  split
  · rename_i limit known
    cases limit - failures <;> exact play_tripThen_of_over answered
  · exact play_tripThen_of_over answered

/-- Where another pass would be due but none is left, the request is given up. -/
theorem play_rest_of_spent {limit : Nat} (known : c.limit? = some limit) (spent : limit ≤ failures)
    {due : Due} (missed : (c.trip asked timeout failures).play w = (.ok (.error due), w')) :
    (c.rest asked timeout failures).play w = (c.giveUp due).play w' := by
  simp only [rest, known, Nat.sub_eq_zero_of_le spent, trips_zero]
  exact play_tripThen_of_due missed

/-- The outcome of a request is that of the rest of its passes. -/
theorem Comes.play_execute (comes : c.Comes asked (c.waiting timeout) start failures w) :
    (c.execute asked timeout).play start = (c.rest asked (c.waiting timeout) failures).play w := by
  induction comes with
  | first =>
    rw [execute_eq, rest]
    cases c.limit? <;> rfl
  | @again failures limit w w' due comes known fewer passed ih =>
    rw [ih]
    have one_more : limit - failures = (limit - (failures + 1)) + 1 := by omega
    simp only [rest, known, one_more, trips_succ]
    exact play_tripThen_of_due passed

/-! ## One pass -/

theorem play_trip_of_unfiltered {i : FaultId}
    (unfiltered : (c.filter asked).play w = (.error i, w')) :
    (c.trip asked timeout failures).play w = (.error i, w') := by
  rw [trip_eq, play_bind_of_error unfiltered]

/-- A request whose filters fail is not sent. -/
theorem play_execute_of_unfiltered {i : FaultId}
    (unfiltered : (c.filter asked).play w = (.error i, w')) :
    (c.execute asked timeout).play w = (.error i, w') := by
  rw [Comes.first.play_execute]
  exact play_rest_of_error (play_trip_of_unfiltered unfiltered)

/-- A pass sends what its filters made of the request, and nothing else since. -/
theorem sent_trip (retry : ∀ handler, c.retry = some handler →
      handler.Keeps (Alike fun s => (Wired.wire.read s : Wire).sent))
    (filtered : (c.filter asked).play w = (.ok current, w')) :
    (Wired.wire.read ((c.trip asked timeout failures).play w).2.own).sent =
      (Wired.wire.read w'.own).sent ++ [⟨current, timeout, c.verify⟩] := by
  have sent := Wire.sent_send ⟨current, timeout, c.verify⟩ w'
  rw [trip_eq, play_bind_of_ok filtered]
  cases answer : (Wire.send ⟨current, timeout, c.verify⟩ : Act σ ResponseId).play w' with
  | mk outcome between =>
    rw [answer] at sent
    rw [play_bind_of_ok (play_attempt_of answer), ← sent]
    cases outcome with
    | ok response =>
      exact keeps_judge Wire.lenient_sent retry ⟨asked, current, failures⟩ response between
    | error i =>
      dsimp only
      rw [play_bind_of_ok (play_is _ _ _)]
      split <;> rfl

theorem accepts_of_retry {handler : RetryHandler σ} (known : c.retry = some handler)
    (command : Command) (response : ResponseId) :
    c.accepts command response = handler.shouldRetry command response := by
  rw [accepts_eq, known]

/-- A failed response that the retry handler accepts makes another attempt due. -/
theorem play_trip_of_accepted {response : ResponseId} {between after : World σ}
    (filtered : (c.filter asked).play w = (.ok current, w'))
    (answered : (Wire.send ⟨current, timeout, c.verify⟩).play w' = (.ok response, between))
    {r : Response} (holds : Wire.Holds between response r) (failed : ¬ r.status < 300)
    (accepted : (c.accepts ⟨asked, current, failures⟩ response).play between = (.ok true, after)) :
    (c.trip asked timeout failures).play w =
      (.ok (.error (.accepted ⟨asked, current, failures⟩ response)), after) := by
  rw [trip_eq, play_bind_of_ok filtered, play_bind_of_ok (play_attempt_of answered)]
  simp only [judge_eq]
  rw [play_bind_of_ok holds.play_response, if_neg failed, play_bind_of_ok accepted, if_pos rfl,
    play_pure]

/-! ## Clients that accept the same answers -/

section

variable {retry : Option (RetryHandler σ)} (unfiltered : c.filters = [])
  (alike : ∀ failures response, c.accepts ⟨asked, asked, failures⟩ response =
    ({ c with retry := retry } : Client σ).accepts ⟨asked, asked, failures⟩ response)

include unfiltered alike

theorem trip_congr (failures : Nat) : c.trip asked timeout failures =
    ({ c with retry := retry } : Client σ).trip asked timeout failures := by
  have own : c.filter asked = pure asked := by rw [filter_eq, unfiltered, List.foldlM_nil]
  have other : ({ c with retry := retry } : Client σ).filter asked = pure asked := own
  have judged (response : ResponseId) : c.judge ⟨asked, asked, failures⟩ response =
      ({ c with retry := retry } : Client σ).judge ⟨asked, asked, failures⟩ response := by
    rw [judge_eq, judge_eq, alike]
    rfl
  rw [trip_eq, trip_eq, own, other, pure_bind, pure_bind]
  simp only [judged]

theorem trips_congr (left failures : Nat) : c.trips asked timeout left failures =
    ({ c with retry := retry } : Client σ).trips asked timeout left failures := by
  induction left generalizing failures with
  | zero =>
    rw [trips_zero, trips_zero, tripThen_eq, tripThen_eq, trip_congr unfiltered alike]
    rfl
  | succ left ih =>
    rw [trips_succ, trips_succ, tripThen_eq, tripThen_eq, trip_congr unfiltered alike]
    simp only [ih]

/-- A client without filters carries a request out as one does that accepts the same answers to
it. -/
theorem execute_congr : c.execute asked timeout =
    ({ c with retry := retry } : Client σ).execute asked timeout := by
  have limit : ({ c with retry := retry } : Client σ).limit? = c.limit? := rfl
  have waiting : ({ c with retry := retry } : Client σ).waiting timeout = c.waiting timeout := rfl
  rw [execute_eq, execute_eq, limit, waiting]
  simp only [trips_congr unfiltered alike, tripThen_eq, trip_congr unfiltered alike]

end

end CloudSession.Client
