import CloudSession.Http.Wire
import CloudSession.Proofs.Http.Payload

/-! # Reading a response that is at hand

What it does to the world to look at a response, to read its body as far as a limit or as a whole,
and to release it. A body that cannot be read counts as none, as long as it fails the way lines do;
bytes that the codec of their charset refuses do not.
-/

namespace CloudSession

open Act

namespace Response

theorem text_of_loaded {r : Response} {bytes : List UInt8} (loaded : r.body = .loaded bytes) :
    r.text = (r.textOf bytes, r) := by
  rw [text, loaded]

/-- No bytes of the announced charset are refused as text: there is no codec of that name, or there
is one that has something to put in the place of what is no text. -/
def Legible (r : Response) : Prop := ∀ bytes, ∃ s, r.decode bytes = .ok s

/-- What a reader of the first bytes makes of them; nothing of bytes that cannot be read. -/
def openingText (r : Response) (limit : Nat) : Except ReadFailure (Option String) :=
  match r.opening? limit with
  | none => .ok none
  | some bytes => (r.decode bytes).map some

theorem openingText_of_none {r : Response} {limit : Nat} (closed : r.opening? limit = none) :
    r.openingText limit = .ok none := by
  rw [openingText, closed]

theorem openingText_of_some {r : Response} {limit : Nat} {bytes : List UInt8}
    (opening : r.opening? limit = some bytes) :
    r.openingText limit = (r.decode bytes).map some := by
  rw [openingText, opening]

/-- The text of a response can be taken, or fails to be as an unreadable body does. -/
def ReadsMildly (r : Response) : Prop :=
  ∀ failure, r.text.1 = .error failure → failure.plan.kind.isReadFailure

/-- What became of an act that reads: it gave what was read, or ended on a fault of the kind of the
failure. -/
def EndsAs {α : Type} (log : FaultLog) (reading : Except ReadFailure α)
    (result : Except FaultId α) : Prop :=
  match reading, result with
  | .ok a, .ok b => a = b
  | .error failure, .error fault => log.kind? fault = some failure.plan.kind
  | _, _ => False

theorem eq_ok_of_endsAs {α : Type} {log : FaultLog} {a : α} {result : Except FaultId α}
    (ended : EndsAs log (.ok a) result) : result = .ok a := by
  cases result with
  | ok b => exact congrArg Except.ok (show a = b from ended).symm
  | error fault => exact ended.elim

theorem exists_eq_error_of_endsAs {α : Type} {log : FaultLog} {failure : ReadFailure}
    {result : Except FaultId α} (ended : EndsAs log (.error failure) result) :
    ∃ fault, result = .error fault ∧ log.kind? fault = some failure.plan.kind := by
  cases result with
  | ok b => exact ended.elim
  | error fault => exact ⟨fault, rfl, ended⟩

end Response

variable {σ : Type} [Wired σ] {w : World σ} {i : ResponseId} {r : Response}

namespace Wire

/-- A response of a world, which is at hand. -/
structure Holds (w : World σ) (i : ResponseId) (r : Response) : Prop where
  known : i < (Wired.wire.read w.own).responses.size
  here : (Wired.wire.read w.own).responses[i]?.getD {} = r

theorem Holds.getElem? (holds : Holds w i r) :
    (Wired.wire.read w.own : Wire).responses[i]? = some r := by
  have own := holds.here
  rw [Array.getElem?_eq_getElem holds.known, Option.getD_some] at own
  rw [Array.getElem?_eq_getElem holds.known, own]

theorem Holds.withResponse (holds : Holds w i r) (r' : Response) :
    Holds (withResponse w i r') i r' := by
  have known := holds.known
  constructor <;> simp [Wire.withResponse, Slot.read_write, known]

theorem Holds.of_same {w' : World σ} (holds : Holds w i r)
    (same : Wired.wire.read w'.own = (Wired.wire.read w.own : Wire)) : Holds w' i r := by
  constructor
  · rw [same]
    exact holds.known
  · rw [same]
    exact holds.here

theorem Holds.play_response (holds : Holds w i r) : (response i).play w = (.ok r, w) := by
  rw [Wire.play_response, holds.here]

/-- A body that can be read as far as the limit is read. -/
theorem Holds.play_readPayload (holds : Holds w i r) {limit : Value} {bytes : List UInt8}
    {after : Response} {text : String} (took : r.takeUpTo limit = (.ok bytes, after))
    (decoded : r.decode bytes = .ok text) :
    (readPayload i limit).play w = (.ok (some text), Wire.withResponse w i after) := by
  rw [readPayload, play_bind_of_ok holds.play_response]
  simp only [took, decoded]
  rw [play_bind_of_ok (play_setResponse i after w), settleRead, play_bind_of_ok (play_pure _ _),
    play_pure]

/-- Bytes that were read but are refused as text end the reading. -/
theorem Holds.play_readPayload_of_garbled (holds : Holds w i r) {limit : Value}
    {bytes : List UInt8} {after : Response} {failure : ReadFailure}
    (took : r.takeUpTo limit = (.ok bytes, after)) (garbled : r.decode bytes = .error failure) :
    (readPayload i limit).play w = (.error (w.log.make failure.plan).2,
      { Wire.withResponse w i after with log := (w.log.make failure.plan).1 }) := by
  rw [readPayload, play_bind_of_ok holds.play_response]
  simp only [took, garbled]
  rw [play_bind_of_ok (play_setResponse i after w)]
  rfl

theorem Holds.play_readText (holds : Holds w i r) {text : String} {after : Response}
    (took : r.text = (.ok text, after)) :
    (readText i).play w = (.ok (some text), Wire.withResponse w i after) := by
  rw [readText, play_bind_of_ok holds.play_response]
  simp only [took]
  rw [play_bind_of_ok (play_setResponse i after w), play_pure]

/-- A send that is answered has its response at hand. -/
theorem Holds.of_send {sent : Sent} {w' : World σ} (played : (send sent).play w = (.ok i, w')) :
    ∃ r, ((Wired.wire.read w.own).server (Wired.wire.read w.own).sent.length).outcome = .ok r ∧
      Holds w' i r := by
  cases answer : ((Wired.wire.read w.own).server (Wired.wire.read w.own).sent.length).outcome with
  | error plan =>
    rw [play_send_of_error answer] at played
    cases played
  | ok r =>
    rw [play_send_of_ok answer] at played
    cases played
    exact ⟨r, rfl, by simp [Slot.read_write], by simp [Slot.read_write]⟩

/-- A release that fails at most on input or output goes well, and what was known of faults stays
known. -/
theorem Holds.play_release (holds : Holds w i r)
    (gentle : ∀ plan, r.closeFails = some plan → plan.kind.isIo) :
    ∃ log, (release i).play w = (.ok (), { Wire.withResponse w i r.released with log := log }) ∧
      ∀ fault kind, w.log.kind? fault = some kind → log.kind? fault = some kind := by
  rw [release, play_bind_of_ok holds.play_response,
    play_bind_of_ok (play_setResponse i _ w)]
  cases fails : r.closeFails with
  | none => exact ⟨w.log, rfl, fun _ _ => id⟩
  | some plan =>
    refine ⟨(w.log.make plan).1, ?_, fun _ _ known => FaultLog.kind?_make_of_known known plan⟩
    simp only []
    rw [play_bind_of_ok (play_plan plan _), play_bind_of_ok (play_is _ _ _)]
    simp only [Wire.withResponse, FaultLog.is_make, gentle plan fails, if_true, play_pure]

theorem Holds.withResponse_self (holds : Holds w i r) : Wire.withResponse w i r = w := by
  have same : (Wired.wire.read w.own : Wire).responses.setIfInBounds i r =
      (Wired.wire.read w.own : Wire).responses := by
    apply Array.ext_getElem?
    intro j
    rw [Array.getElem?_setIfInBounds]
    split
    · rename_i own
      rw [if_pos holds.known, ← own, holds.getElem?]
    · rfl
  rw [Wire.withResponse, same, Slot.write_read]

/-- The last response counts. -/
theorem withResponse_again (w : World σ) (i : ResponseId) (r r' : Response) (log : FaultLog) :
    Wire.withResponse { Wire.withResponse w i r with log := log } i r' =
      { Wire.withResponse w i r' with log := log } := by
  simp only [Wire.withResponse, Slot.read_write, Slot.write_write,
    Array.setIfInBounds_setIfInBounds]

/-- A body is read as far as the limit, or counts as none where it cannot be read that far; what was
read is given as text, or ends the reading where it is refused. -/
theorem Holds.exists_play_readPayload (holds : Holds w i r) {setting : Value} {limit : Int}
    (whole : setting.asNumber? = some (.whole limit))
    (breaks : ∀ plan, r.breaks = some plan → plan.kind.isReadFailure) :
    ∃ reading result body log, (readPayload i setting).play w =
        (result, { Wire.withResponse w i { r with body := body } with log := log }) ∧
      Response.EndsAs log reading result ∧
      (∀ failure, reading = .error failure → ∃ seen, r.decode seen = .error failure) ∧
      (0 ≤ limit → reading = r.openingText limit.toNat) := by
  cases opening : r.opening? limit.toNat with
  | some bytes =>
    obtain ⟨seen, body, took, natural⟩ := Response.takeUpTo_of_opening whole opening
    have opened : 0 ≤ limit → (r.decode seen).map some = r.openingText limit.toNat := by
      intro positive
      rw [natural positive, Response.openingText_of_some opening]
    refine ⟨(r.decode seen).map some, ?_⟩
    cases decoded : r.decode seen with
    | ok text =>
      rw [decoded] at opened
      exact ⟨_, body, w.log, holds.play_readPayload took decoded, rfl, (by rintro _ ⟨⟩), opened⟩
    | error failure =>
      rw [decoded] at opened
      refine ⟨_, body, _, holds.play_readPayload_of_garbled took decoded,
        FaultLog.kind?_make _ _, ?_, opened⟩
      rintro _ ⟨⟩
      exact ⟨seen, decoded⟩
  | none =>
    obtain ⟨failure, body, failed, why⟩ := Response.takeUpTo_of_closed whole opening
    have reading : failure.plan.kind.isReadFailure := by
      rcases why with rfl | ⟨plan, broken, rfl⟩
      · rfl
      · exact breaks plan broken
    refine ⟨.ok none, .ok none, body, (w.log.make failure.plan).1, ?_, rfl, (by rintro _ ⟨⟩), ?_⟩
    · rw [readPayload, play_bind_of_ok holds.play_response]
      simp only [failed]
      rw [play_bind_of_ok (play_setResponse i _ w), play_bind_of_ok (play_plan _ _),
        play_bind_of_ok (play_is _ _ _)]
      simp only [Wire.withResponse, FaultLog.is_make, reading, if_true, play_pure]
    · exact fun _ => (Response.openingText_of_none opening).symm

/-- The text of a response is taken; a body that cannot be read has none. -/
theorem Holds.exists_play_readText (holds : Holds w i r) (mild : r.ReadsMildly) :
    ∃ log, (readText i).play w =
      (.ok r.text.1.toOption, { Wire.withResponse w i r.text.2 with log := log }) := by
  cases took : r.text with
  | mk result after =>
    cases result with
    | ok text => exact ⟨w.log, holds.play_readText took⟩
    | error failure =>
      refine ⟨(w.log.make failure.plan).1, ?_⟩
      rw [readText, play_bind_of_ok holds.play_response]
      simp only [took]
      rw [play_bind_of_ok (play_setResponse i _ w), play_bind_of_ok (play_plan _ _),
        play_bind_of_ok (play_is _ _ _)]
      simp only [Wire.withResponse, FaultLog.is_make, mild failure (congrArg Prod.fst took),
        if_true, play_pure]
      rfl

end Wire

end CloudSession
