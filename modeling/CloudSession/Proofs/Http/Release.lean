import CloudSession.Proofs.Http.Client
import CloudSession.Service.Store

/-! # Releases

A failed response is released once, whatever a tree of handlers makes of it and however that ends,
and a response that did not fail is never released. Releases add up over acts in a row: each leaf of
a tree releases the response it is asked about behind all else it does, and nothing else in a pass
of a request releases anything.
-/

namespace CloudSession

open Act

variable {σ α : Type}

namespace Wire

/-- A count for one response, and none for the others. -/
def solely (i : ResponseId) (n : Nat) (j : ResponseId) : Nat := if j = i then n else 0

/-- From one wire to another the server is the same and no response is lost. Each has its status,
and was released as many more times as counted. -/
structure Released (more : ResponseId → Nat) (s t : Wire) : Prop where
  server : t.server = s.server
  response : ∀ i r, s.responses[i]? = some r →
    ∃ r', t.responses[i]? = some r' ∧ r'.status = r.status ∧ r'.releases = r.releases + more i

variable {more more' : ResponseId → Nat} {s t u : Wire}

theorem Released.refl (s : Wire) : Released (fun _ => 0) s s :=
  ⟨rfl, fun _ r here => ⟨r, here, rfl, rfl⟩⟩

/-- Releases add up. -/
theorem Released.trans (first : Released more s t) (second : Released more' t u) :
    Released (fun i => more i + more' i) s u where
  server := second.server.trans first.server
  response i r here := by
    obtain ⟨r', there, status, releases⟩ := first.response i r here
    obtain ⟨r'', end_of_it, status', releases'⟩ := second.response i r' there
    exact ⟨r'', end_of_it, status'.trans status, by omega⟩

/-- Only the counts of responses at hand matter. -/
theorem Released.congr (released : Released more s t)
    (same : ∀ i r, s.responses[i]? = some r → more i = more' i) : Released more' s t where
  server := released.server
  response i r here := same i r here ▸ released.response i r here

variable [Wired σ]

/-- From one state to another no response at hand is released. -/
def Untouched (s t : σ) : Prop := Released (fun _ => 0) (Wired.wire.read s) (Wired.wire.read t)

instance : IsPreorder σ Untouched where
  refl s := .refl (Wired.wire.read s)
  trans _ _ _ first second := first.trans second

theorem released_withResponse {w : World σ} {i : ResponseId} {r r' : Response} {n : Nat}
    (here : (Wired.wire.read w.own).responses[i]? = some r) (status : r'.status = r.status)
    (releases : r'.releases = r.releases + n) :
    Released (solely i n) (Wired.wire.read w.own) (Wired.wire.read (withResponse w i r').own) where
  server := by rw [withResponse, Slot.read_write]
  response j own known := by
    rw [withResponse, Slot.read_write]
    simp only [Array.getElem?_setIfInBounds, solely]
    by_cases same : i = j
    · subst same
      obtain rfl := Option.some.inj (here.symm.trans known)
      have inside := (Array.getElem?_eq_some_iff.mp here).1
      rw [if_pos rfl, if_pos rfl, if_pos inside]
      exact ⟨r', rfl, status, releases⟩
    · rw [if_neg same, if_neg (Ne.symm same)]
      exact ⟨own, known, rfl, rfl⟩

/-- Reading a response does not release it. -/
theorem readable_untouched : Readable (OnOwn (Untouched : σ → σ → Prop)) where
  log := .onOwn
  body w i r here body := by
    have rewritten : Released (solely i 0) (Wired.wire.read w.own)
        (Wired.wire.read (withResponse w i { r with body := body }).own) :=
      released_withResponse here rfl rfl
    exact rewritten.congr fun j _ _ => ite_self 0

/-- The release of a response counts, also where it fails. -/
theorem released_release (i : ResponseId) (w : World σ) : Released (solely i 1)
    (Wired.wire.read w.own) (Wired.wire.read ((release i : Act σ Unit).play w).2.own) := by
  have own : ((release i : Act σ Unit).play w).2.own =
      (withResponse w i ((Wired.wire.read w.own : Wire).responses[i]?.getD {}).released).own := by
    rw [release, play_bind_of_ok (play_response i w), play_bind_of_ok (play_setResponse i _ w)]
    split
    · rfl
    · rw [play_bind_of_ok (play_plan _ _), play_bind_of_ok (play_is _ _ _)]
      split <;> rfl
  rw [own]
  cases here : (Wired.wire.read w.own : Wire).responses[i]? with
  | some r => exact released_withResponse here rfl rfl
  | none =>
    have absent := Array.getElem?_eq_none_iff.mp here
    rw [withResponse, Array.setIfInBounds, dif_neg (by omega), Slot.write_read]
    refine (Released.refl _).congr fun j r known => ?_
    have inside := (Array.getElem?_eq_some_iff.mp known).1
    refine (if_neg ?_).symm
    rintro rfl
    omega

/-- What is sent releases nothing. -/
theorem untouched_send (sent : Sent) : Keeps Untouched (send sent : Act σ ResponseId) := by
  intro w
  have pushed (response r : Response) (i : ResponseId)
      (known : (Wired.wire.read w.own : Wire).responses[i]? = some r) :
      ((Wired.wire.read w.own : Wire).responses.push response)[i]? = some r := by
    have inside := (Array.getElem?_eq_some_iff.mp known).1
    rw [Array.getElem?_push, if_neg (by omega), known]
  cases answer : ((Wired.wire.read w.own).server (Wired.wire.read w.own).sent.length).outcome with
  | ok response =>
    rw [play_send_of_ok answer]
    constructor
    · rw [Slot.read_write]
    · intro i r known
      rw [Slot.read_write]
      exact ⟨r, pushed response r i known, rfl, rfl⟩
  | error plan =>
    rw [play_send_of_error answer]
    constructor
    · rw [Slot.read_write]
    · intro i r known
      rw [Slot.read_write]
      exact ⟨r, known, rfl, rfl⟩

/-- The response to a request is not among those at hand before it is sent. -/
theorem absent_of_send {sent : Sent} {w w' : World σ} {i : ResponseId}
    (played : (send sent).play w = (.ok i, w')) :
    (Wired.wire.read w.own : Wire).responses[i]? = none := by
  obtain ⟨r, answered, _⟩ := Holds.of_send played
  rw [play_send_of_ok answered] at played
  cases played
  exact Array.getElem?_size

end Wire

/-- What is done last is done behind the rest, however both end. -/
theorem Act.exists_play_andFinally (act : Act σ α) (last : Act σ Unit) (w : World σ) :
    ∃ log, ((act.andFinally last).play w).2 = { (last.play (act.play w).2).2 with log := log } := by
  rw [andFinally, play_bind_of_ok (play_attempt act w), play_bind_of_ok (play_attempt last _)]
  cases (last.play (act.play w).2).1 with
  | ok _ => cases (act.play w).1 <;> exact ⟨_, rfl⟩
  | error j => cases (act.play w).1 <;> exact ⟨_, rfl⟩

namespace RetryHandler

open Wire

variable [Wired σ] {command : Command}

omit [Wired σ] in
theorem keeps_nap {R : σ → σ → Prop} [IsPreorder σ R] (seconds : Number) :
    Act.Keeps R (nap seconds : Act σ Unit) := by
  unfold nap
  split
  · exact .fail _
  · exact .nap _

theorem keeps_napIfTransient {R : σ → σ → Prop} [IsPreorder σ R] (b : Backoff) (command : Command)
    (response : ResponseId) : Act.Keeps R (napIfTransient b command response : Act σ Bool) := by
  refine .bind (.of_own fun _ => rfl) fun r => .bind (.demand _ _) fun transient => ?_
  cases transient with
  | false => exact .pure false
  | true =>
    refine .bind (.demand _ _) fun limit => ?_
    split
    · exact .pure false
    · split
      · exact .fail _
      · exact .bind (keeps_nap _) fun _ => .pure true

/-- A tree of handlers releases the response it is asked about once, however its answer turns out,
as long as what it does to forget a session releases nothing. -/
theorem released_shouldRetry {handler : RetryHandler σ} (forgets : handler.Keeps Untouched)
    (command : Command) (i : ResponseId) (w : World σ) :
    Released (solely i 1) (Wired.wire.read w.own)
      (Wired.wire.read ((handler.shouldRetry command i).play w).2.own) := by
  have declines : Released (solely i 1) (Wired.wire.read w.own)
      (Wired.wire.read ((release i >>= fun _ => pure false : Act σ Bool).play w).2.own) := by
    refine ((released_release i w).trans ?_).congr fun j _ _ => Nat.add_zero _
    exact Leads.behind (R := OnOwn Untouched) (fun _ => .pure false) w
  have behind {act : Act σ Bool} (keeps : Act.Keeps Untouched act) :
      Released (solely i 1) (Wired.wire.read w.own)
        (Wired.wire.read ((act.andFinally (release i)).play w).2.own) := by
    obtain ⟨log, ended⟩ := exists_play_andFinally act (release i) w
    rw [ended]
    refine ((keeps w).trans (released_release i _)).congr ?_
    exact fun j _ _ => Nat.zero_add _
  induction handler with
  | decline => exact declines
  | renew renewal invalidate =>
    exact behind (leads_renewIfMarked readable_untouched renewal forgets command i)
  | backoff b => exact behind (keeps_napIfTransient b command i)
  | delegating client server ofClient ofServer =>
    rw [shouldRetry, play_bind_of_ok (play_response i w)]
    dsimp only
    split
    · exact ofClient forgets.1
    · split
      · exact ofServer forgets.2
      · exact declines

end RetryHandler

namespace Client

open Wire

variable [Wired σ] {c : Client σ} {handler : RetryHandler σ} {asked current : Request}
variable {timeout : Value} {w : World σ} {i : ResponseId} {r : Response} {failures : Nat}

/-- A client with a retry handler, where neither forgetting a session nor a filter releases
anything. -/
structure Tends (c : Client σ) (handler : RetryHandler σ) : Prop where
  retry : c.retry = some handler
  forgets : handler.Keeps Untouched
  filters : ∀ f ∈ c.filters, ∀ r, Act.Keeps Untouched (f r)

/-- A request receives a response at one of its passes. -/
def Receives (c : Client σ) (asked : Request) (timeout : Value) (start : World σ)
    (i : ResponseId) : Prop :=
  ∃ failures w current w' w'', c.Comes asked timeout start failures w ∧
    (c.filter asked).play w = (.ok current, w') ∧
    (Wire.send ⟨current, timeout, c.verify⟩).play w' = (.ok i, w'')

/-- How often a response is to be released: once if it failed. -/
def dues (status : Int) : Nat := if status < 300 then 0 else 1

section

variable (tends : c.Tends handler)

include tends

theorem Tends.released_judge (holds : Holds w i r) (command : Command) :
    Released (solely i (dues r.status)) (Wired.wire.read w.own)
      (Wired.wire.read ((c.judge command i).play w).2.own) := by
  rw [judge_eq, play_bind_of_ok holds.play_response, dues]
  split
  · exact (Released.refl _).congr fun j _ _ => (ite_self 0).symm
  · have accepts := accepts_of_retry tends.retry command i
    refine ((RetryHandler.released_shouldRetry tends.forgets command i w).trans ?_).congr
      fun j _ _ => Nat.add_zero _
    rw [accepts]
    refine Leads.behind (R := OnOwn Untouched) (fun accepted => ?_) w
    cases accepted with
    | true => exact .pure _
    | false => exact .bind (leads_conclude readable_untouched command i) fun _ => .pure _

/-- A response that a pass receives is released when it is judged, and none that was at hand. -/
theorem Tends.untouched_trip (timeout : Value) (failures : Nat) :
    Act.Keeps Untouched (c.trip asked timeout failures) := by
  intro w
  rw [trip_eq]
  have filter : Act.Keeps Untouched (c.filter asked) :=
    Transport.keeps_filter (t := c.transport) tends.filters asked
  refine trans_bind (filter w) fun current => ?_
  intro w'
  have sent := untouched_send ⟨current, timeout, c.verify⟩ w'
  cases played : (Wire.send ⟨current, timeout, c.verify⟩ : Act σ ResponseId).play w' with
  | mk outcome between =>
    rw [played] at sent
    rw [play_bind_of_ok (play_attempt_of played)]
    cases outcome with
    | error i =>
      dsimp only
      rw [play_bind_of_ok (play_is _ _ _)]
      split <;> exact sent
    | ok i =>
      obtain ⟨r, _, holds⟩ := Holds.of_send played
      refine (sent.trans (tends.released_judge holds _)).congr fun j own known => ?_
      -- What is released here came with this very pass.
      have absent := absent_of_send played
      refine (Nat.zero_add _).trans (if_neg ?_)
      rintro rfl
      rw [absent] at known
      cases known

theorem Tends.untouched_tripThen (timeout : Value) (failures : Nat) {next : Due → Act σ ResponseId}
    (keeps : ∀ due, Act.Keeps Untouched (next due)) :
    Act.Keeps Untouched (c.tripThen asked timeout failures next) := by
  rw [tripThen_eq]
  refine .bind (tends.untouched_trip timeout failures) fun outcome => ?_
  cases outcome with
  | ok response => exact .pure response
  | error due => exact keeps due

theorem Tends.untouched_trips (timeout : Value) (left failures : Nat) :
    Act.Keeps Untouched (c.trips asked timeout left failures) := by
  induction left generalizing failures with
  | zero => exact tends.untouched_tripThen timeout failures (leads_giveUp readable_untouched)
  | succ left ih => exact tends.untouched_tripThen timeout failures fun _ => ih (failures + 1)

/-- Behind a pass nothing at hand is released. -/
theorem Tends.untouched_behind (timeout : Value) (failures : Nat) (w : World σ) :
    Untouched ((c.trip asked timeout failures).play w).2.own
      ((c.rest asked timeout failures).play w).2.own := by
  have behind {next : Due → Act σ ResponseId} (keeps : ∀ due, Act.Keeps Untouched (next due)) :
      Untouched ((c.trip asked timeout failures).play w).2.own
        ((c.tripThen asked timeout failures next).play w).2.own :=
    behind_trip (R := OnOwn Untouched) failures keeps w
  unfold rest
  split
  · rename_i limit known
    cases limit - failures with
    | zero => exact behind (leads_giveUp readable_untouched)
    | succ left => exact behind fun _ => tends.untouched_trips timeout left (failures + 1)
  · exact behind (leads_loseCount readable_untouched)

/-- Up to a pass nothing at hand is released. -/
theorem Tends.untouched_comes {start : World σ} (comes : c.Comes asked timeout start failures w) :
    Untouched start.own w.own := by
  induction comes with
  | first => exact refl_of Untouched start.own
  | @again failures limit w w' due comes known fewer passed ih =>
    have pass : Untouched w.own ((c.trip asked timeout failures).play w).2.own :=
      tends.untouched_trip timeout failures w
    rw [passed] at pass
    exact trans_of Untouched ih pass

/-- A response that a request received was released by the end as often as it was to be. -/
theorem Tends.released_of_receives {start : World σ}
    (fresh : ∀ n r, ((Wired.wire.read start.own).server n).outcome = .ok r → r.releases = 0)
    (receives : c.Receives asked (c.waiting timeout) start i) :
    ∃ r, (Wired.wire.read ((c.execute asked timeout).play start).2.own).responses[i]? = some r ∧
      r.releases = dues r.status := by
  obtain ⟨failures, w, current, w', between, comes, filtered, played⟩ := receives
  obtain ⟨r, answered, holds⟩ := Holds.of_send played
  have unreleased : r.releases = 0 := by
    have filter := Transport.keeps_filter (t := c.transport) tends.filters asked w
    rw [show c.transport.filter asked = c.filter asked from rfl, filtered] at filter
    have same := (trans_of Untouched (tends.untouched_comes comes) filter).server
    exact fresh _ r (same ▸ answered)
  have trip : (c.trip asked (c.waiting timeout) failures).play w =
      (c.judge ⟨asked, current, failures⟩ i).play between := by
    rw [trip_eq, play_bind_of_ok filtered, play_bind_of_ok (play_attempt_of played)]
  rw [comes.play_execute]
  have judged := tends.released_judge holds ⟨asked, current, failures⟩
  rw [← trip] at judged
  obtain ⟨r', there, status, releases⟩ :=
    (judged.trans (tends.untouched_behind (c.waiting timeout) failures w)).response i r
      holds.getElem?
  refine ⟨r', there, ?_⟩
  rw [releases, unreleased, status, solely, if_pos rfl, Nat.zero_add, Nat.add_zero]

end

/-- Over a tree of handlers where nothing that is done to forget a session releases a response:
asked about a response, it releases that one once and no other, however its answer turns out. So a
client that retries by it, and whose filters release nothing, has by the end of a request released
each response it received once if it failed, and never if it did not. -/
theorem released_exactly_once {handler : RetryHandler σ} (forgets : handler.Keeps Untouched) :
    (∀ command i w, Released (solely i 1) (Wired.wire.read w.own)
      (Wired.wire.read ((handler.shouldRetry command i).play w).2.own)) ∧
    ∀ c : Client σ, c.retry = some handler → (∀ f ∈ c.filters, ∀ r, Act.Keeps Untouched (f r)) →
      ∀ asked timeout start,
        (∀ n r, ((Wired.wire.read start.own).server n).outcome = .ok r → r.releases = 0) →
        ∀ i, c.Receives asked (c.waiting timeout) start i →
          ∃ r, (Wired.wire.read ((c.execute asked timeout).play start).2.own).responses[i]? =
            some r ∧ r.releases = if r.status < 300 then 0 else 1 := by
  constructor
  · intro command i w
    exact RetryHandler.released_shouldRetry forgets command i w
  · intro c retry filters asked timeout start fresh i receives
    have tends : c.Tends handler := ⟨retry, forgets, filters⟩
    exact tends.released_of_receives fresh receives

/-- The end of a lease, told in bytes that spell the marker. -/
def lapsing : Response where
  status := 401
  body := .loaded [114, 101, 110, 101, 119]
  closeFails := some (.ofKind .io)

/-- A server that ends a lease, and then has nothing where it is asked. Neither response can be
released without a failure, and the second one fails on what is not of input and output. -/
def closingBadly : Nat → Reply
  | 0 => { outcome := .ok lapsing }
  | 1 => { outcome := .ok { status := 404, closeFails := some (.ofKind .runtime) } }
  | _ => { outcome := .ok {} }

/-- A handler that renews leases, and leaves the statuses of the server to nobody. -/
def renewing : RetryHandler Store :=
  .delegating (.renew { marker := .text "renew", maxPayload := .int 16 }
    (Store.sessionSlot.change Cell.invalidate)) .decline

def renewingOnce : Client Store := { retry := some renewing, maxRetries := .int 1 }

def asking : Request := { endpoint := .text "http://h" }

def facingBadly : World Store := { clock := 0, own := { wire := { server := closingBadly } } }

/-- A request is failed by the release of its second response, which counts like the first one. -/
theorem released_exactly_once_closing_badly :
    let ended := (renewingOnce.execute asking).play facingBadly
    renewing.Keeps Untouched ∧
      (∀ n r, (closingBadly n).outcome = .ok r → r.releases = 0) ∧
      renewingOnce.Receives asking (renewingOnce.waiting .null) facingBadly 0 ∧
      renewingOnce.Receives asking (renewingOnce.waiting .null) facingBadly 1 ∧
      (∃ i, ended.1 = .error i) ∧ ended.2.own.wire.responses.toList.map (·.releases) = [1, 1] ∧
      (∃ r, ended.2.own.wire.responses[1]? = some r ∧
        r.releases = if r.status < 300 then 0 else 1) := by
  have forgets : renewing.Keeps Untouched := ⟨fun w => refl_of Untouched w.own, trivial⟩
  have fresh : ∀ n r, (closingBadly n).outcome = .ok r → r.releases = 0 := by
    intro n r answered
    unfold closingBadly at answered
    split at answered <;> cases answered <;> rfl
  have first : renewingOnce.Receives asking (renewingOnce.waiting .null) facingBadly 0 :=
    ⟨0, facingBadly, asking, facingBadly, _, .first, rfl, rfl⟩
  have second : renewingOnce.Receives asking (renewingOnce.waiting .null) facingBadly 1 :=
    ⟨1, _, asking, _, _, .again .first rfl Nat.zero_lt_one rfl, rfl, rfl⟩
  have released := (released_exactly_once forgets).2 renewingOnce rfl
    (fun f member => absurd member List.not_mem_nil) asking .null facingBadly fresh
  exact ⟨forgets, fresh, first, second, ⟨_, rfl⟩, rfl, released 1 second⟩

end Client

end CloudSession
