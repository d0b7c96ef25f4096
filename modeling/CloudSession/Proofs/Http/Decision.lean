import CloudSession.Proofs.Http.Headers
import CloudSession.Proofs.Http.Lease
import CloudSession.Service.Store

/-! # What a renewal decides

A handler that renews leases accepts a response exactly if it tells of the end of a lease, and the
request is no login. It forgets the session once then, and never otherwise. A body that cannot be
read as far as the limit tells nothing, but one whose bytes are refused as text ends the handler.
-/

namespace CloudSession

open Act

variable {σ : Type} [Wired σ] {w : World σ} {i : ResponseId} {r : Response}

namespace RetryHandler

/-- A handler that renews leases, spelled out: its marker, the names of its headers and its limit,
what it is to forget a session, and that the wire is no part of that. -/
structure Renews (renewal : Renewal) (invalidate : Act σ Unit) (marker user key token : String)
    (limit : Int) (forget : σ → σ) : Prop where
  told : renewal.marker = .text marker
  users : renewal.userHeader = .text user
  keys : renewal.keyHeader = .text key
  tokens : renewal.tokenHeader = .text token
  bounded : renewal.maxPayload.asNumber? = some (.whole limit)
  forgets : ∀ w, invalidate.play w = (.ok (), { w with own := forget w.own })
  apart : ∀ s, Wired.wire.read (forget s) = (Wired.wire.read s : Wire)

/-- A renewal looks into a response of status 401 to what is no login: where a user and a key are
mentioned and no token, it is one. -/
def LooksInto (command : Command) (r : Response) (user key token : String) : Prop :=
  r.status = 401 ∧ ¬ (command.current.headers.Mentions user ∧
    command.current.headers.Mentions key ∧ ¬ command.current.headers.Mentions token)

/-- What is done to a state once a response was accepted, and only then. -/
def whenAccepted (result : Except FaultId Bool) (forget : σ → σ) : σ → σ :=
  match result with
  | .ok true => forget
  | _ => id

omit [Wired σ] in
theorem whenAccepted_ok (answer : Bool) (forget : σ → σ) :
    whenAccepted (.ok answer) forget = if answer then forget else id := by
  cases answer <;> rfl

variable {renewal : Renewal} {invalidate : Act σ Unit} {command : Command}
variable {marker user key token : String} {limit : Int} {forget : σ → σ}

/-- A response of another status, or to a login, is not looked into. -/
theorem play_renewIfMarked_of_aside (holds : Wire.Holds w i r)
    (aside : r.status ≠ 401 ∨ renewal.isLogin? command.current = some true) :
    (renewIfMarked renewal invalidate command i).play w = (.ok false, w) := by
  rw [renewIfMarked, play_bind_of_ok holds.play_response]
  rcases aside with status | login
  · rw [if_pos status, play_pure]
  · split
    · rfl
    · rw [login, play_bind_of_ok (play_demand _ _ _), if_pos rfl, play_pure]

section

variable (renews : Renews renewal invalidate marker user key token limit forget)
variable (holds : Wire.Holds w i r)

include renews holds

/-- What was read decides about a response of status 401 to what is no login. -/
theorem Renews.play_renewIfMarked (status : r.status = 401)
    (signed : renewal.isLogin? command.current = some false) {text : Option String}
    {w' : World σ} (read : (Wire.readPayload i renewal.maxPayload).play w = (.ok text, w')) :
    (renewIfMarked renewal invalidate command i).play w = (.ok (text.any (Text.isWithin marker)),
      { w' with own := (if text.any (Text.isWithin marker) then forget else id) w'.own }) := by
  have marked : renewal.isMarked? text = some (text.any (Text.isWithin marker)) := by
    cases text with
    | none => rfl
    | some body => simp only [Renewal.isMarked?, renews.told, Option.any_some]
  rw [renewIfMarked, play_bind_of_ok holds.play_response, if_neg (not_not_intro status), signed,
    play_bind_of_ok (play_demand _ _ _), if_neg Bool.false_ne_true, play_bind_of_ok read, marked,
    play_bind_of_ok (play_demand _ _ _)]
  cases text.any (Text.isWithin marker) with
  | true => rw [if_pos rfl, play_bind_of_ok (renews.forgets w'), play_pure, if_pos rfl]
  | false => rfl

omit renews in
/-- Nothing is decided where what was read is refused as text. -/
theorem play_renewIfMarked_of_error (status : r.status = 401)
    (signed : renewal.isLogin? command.current = some false) {fault : FaultId} {w' : World σ}
    (refused : (Wire.readPayload i renewal.maxPayload).play w = (.error fault, w')) :
    (renewIfMarked renewal invalidate command i).play w = (.error fault, w') := by
  rw [renewIfMarked, play_bind_of_ok holds.play_response, if_neg (not_not_intro status), signed,
    play_bind_of_ok (play_demand _ _ _), if_neg Bool.false_ne_true, play_bind_of_error refused]

/-- However it was decided, the response is released next, and nothing more is done. -/
theorem Renews.play_shouldRetry
    (gentle : ∀ plan, r.closeFails = some plan → plan.kind.isIo) {result : Except FaultId Bool}
    {body : Body} {log : FaultLog}
    (decided : (renewIfMarked renewal invalidate command i).play w = (result, { w with
      own := whenAccepted result forget (Wire.withResponse w i { r with body := body }).own
      log := log })) :
    ∃ last more, ((RetryHandler.renew renewal invalidate).shouldRetry command i).play w =
        (result, { Wire.withResponse { w with
          own := whenAccepted result forget (Wire.withResponse w i { r with body := body }).own }
            i last with log := more }) ∧
      ∀ fault kind, log.kind? fault = some kind → more.kind? fault = some kind := by
  have later : Wire.Holds { w with
      own := whenAccepted result forget (Wire.withResponse w i { r with body := body }).own
      log := log } i { r with body := body } := by
    refine (holds.withResponse { r with body := body }).of_same ?_
    unfold whenAccepted
    split
    · exact renews.apart _
    · rfl
  obtain ⟨more, released, still⟩ := later.play_release gentle
  refine ⟨({ r with body := body } : Response).released, more, ?_, still⟩
  rw [shouldRetry, play_andFinally_of_ok decided released]
  rfl

/-- Where a response is looked into, what is read decides. -/
theorem Renews.exists_play_shouldRetry_of_looks (status : r.status = 401)
    (signed : renewal.isLogin? command.current = some false)
    (breaks : ∀ plan, r.breaks = some plan → plan.kind.isReadFailure)
    (gentle : ∀ plan, r.closeFails = some plan → plan.kind.isIo) :
    ∃ reading result body last log,
      ((RetryHandler.renew renewal invalidate).shouldRetry command i).play w =
        (result, { Wire.withResponse { w with
          own := whenAccepted result forget (Wire.withResponse w i { r with body := body }).own }
            i last with log := log }) ∧
      Response.EndsAs log (reading.map (·.any (Text.isWithin marker))) result ∧
      (∀ failure, reading = .error failure → ∃ seen, r.decode seen = .error failure) ∧
      (0 ≤ limit → reading = r.openingText limit.toNat) := by
  obtain ⟨reading, result, body, log, read, ended, garbled, opened⟩ :=
    holds.exists_play_readPayload renews.bounded breaks
  cases reading with
  | ok text =>
    obtain rfl := Response.eq_ok_of_endsAs ended
    have decided := renews.play_renewIfMarked holds status signed read
    rw [← whenAccepted_ok] at decided
    obtain ⟨last, more, played, -⟩ := renews.play_shouldRetry holds gentle decided
    exact ⟨.ok text, _, body, last, more, played, rfl, garbled, opened⟩
  | error failure =>
    obtain ⟨fault, rfl, kind⟩ := Response.exists_eq_error_of_endsAs ended
    have decided : (renewIfMarked renewal invalidate command i).play w =
        (.error fault, { w with
          own := whenAccepted (.error fault) forget
            (Wire.withResponse w i { r with body := body }).own
          log := log }) := play_renewIfMarked_of_error holds status signed read
    obtain ⟨last, more, played, still⟩ := renews.play_shouldRetry holds gentle decided
    exact ⟨.error failure, _, body, last, more, played, still fault _ kind, garbled, opened⟩

/-- A response that is not looked into is declined, and its body is left as it is. -/
theorem Renews.exists_play_shouldRetry_of_aside
    (aside : r.status ≠ 401 ∨ renewal.isLogin? command.current = some true)
    (gentle : ∀ plan, r.closeFails = some plan → plan.kind.isIo) :
    ∃ last log, ((RetryHandler.renew renewal invalidate).shouldRetry command i).play w =
      (.ok false, { Wire.withResponse { w with
        own := whenAccepted (.ok false) forget
          (Wire.withResponse w i { r with body := r.body }).own } i last with log := log }) := by
  have decided : (renewIfMarked renewal invalidate command i).play w = (.ok false, { w with
      own := whenAccepted (.ok false) forget (Wire.withResponse w i { r with body := r.body }).own
      log := w.log }) := by
    rw [play_renewIfMarked_of_aside holds aside, holds.withResponse_self]
    rfl
  obtain ⟨last, log, played, -⟩ := renews.play_shouldRetry holds gentle decided
  exact ⟨last, log, played⟩

/-- It is decided by what is read, and there is always an answer unless that is refused as text. A
limit that counts from the start says which bytes are read. -/
theorem Renews.exists_play_shouldRetry (named : command.current.headers.Named)
    (breaks : ∀ plan, r.breaks = some plan → plan.kind.isReadFailure)
    (gentle : ∀ plan, r.closeFails = some plan → plan.kind.isIo) :
    ∃ reading result body last log,
      ((RetryHandler.renew renewal invalidate).shouldRetry command i).play w =
        (result, { Wire.withResponse { w with
          own := whenAccepted result forget (Wire.withResponse w i { r with body := body }).own }
            i last with log := log }) ∧
      Response.EndsAs log reading result ∧
      (∀ failure, reading = .error failure → ∃ seen, r.decode seen = .error failure) ∧
      (¬ LooksInto command r user key token → reading = .ok false) ∧
      (LooksInto command r user key token → 0 ≤ limit →
        reading = (r.openingText limit.toNat).map (·.any (Text.isWithin marker))) := by
  obtain ⟨login, judged, is_login⟩ :=
    Renewal.isLogin?_of_named renews.users renews.keys renews.tokens named
  by_cases looks : LooksInto command r user key token
  · have signed := Bool.eq_false_iff.mpr (mt is_login.mp looks.2)
    obtain ⟨reading, result, body, last, log, played, ended, garbled, opened⟩ :=
      renews.exists_play_shouldRetry_of_looks holds looks.1 (signed ▸ judged) breaks gentle
    refine ⟨_, result, body, last, log, played, ended, fun failure failed => ?_,
      fun aside => absurd looks aside, fun _ natural => congrArg _ (opened natural)⟩
    cases reading with
    | ok text => cases failed
    | error other =>
      cases failed
      exact garbled failure rfl
  · have aside : r.status ≠ 401 ∨ renewal.isLogin? command.current = some true := by
      by_cases status : r.status = 401
      · refine .inr (judged.trans (congrArg some (is_login.mpr ?_)))
        by_contra signed
        exact looks ⟨status, signed⟩
      · exact .inl status
    obtain ⟨last, log, played⟩ := renews.exists_play_shouldRetry_of_aside holds aside gentle
    exact ⟨.ok false, .ok false, r.body, last, log, played, rfl, (by rintro _ ⟨⟩), fun _ => rfl,
      fun own => absurd own looks⟩

/-- A response is accepted exactly if its status is 401, the request is no login, and the marker
stands in the text of the first bytes of a body that can be read as far as the limit. Where it is
accepted the session is forgotten once, and otherwise the state is as it was but for the response.
There is no answer exactly if these bytes would be looked into, and are refused as text. -/
theorem Renews.accepts_exactly_lapsed (positive : 1 ≤ limit)
    (named : command.current.headers.Named)
    (breaks : ∀ plan, r.breaks = some plan → plan.kind.isReadFailure)
    (gentle : ∀ plan, r.closeFails = some plan → plan.kind.isIo) :
    ∃ result body last log,
      ((RetryHandler.renew renewal invalidate).shouldRetry command i).play w =
        (result, { Wire.withResponse { w with
          own := whenAccepted result forget (Wire.withResponse w i { r with body := body }).own }
            i last with log := log }) ∧
      (result = .ok true ↔ LooksInto command r user key token ∧
        ∃ bytes text, r.opening? limit.toNat = some bytes ∧ r.decode bytes = .ok text ∧
          marker.toList <:+: text.toList) ∧
      ((∃ fault, result = .error fault) ↔ LooksInto command r user key token ∧
        ∃ bytes failure, r.opening? limit.toNat = some bytes ∧ r.decode bytes = .error failure) ∧
      ∀ fault bytes failure, result = .error fault → r.opening? limit.toNat = some bytes →
        r.decode bytes = .error failure → log.kind? fault = some failure.plan.kind := by
  obtain ⟨reading, result, body, last, log, played, ended, -, aside, looked⟩ :=
    renews.exists_play_shouldRetry holds named breaks gentle
  refine ⟨result, body, last, log, played, ?_⟩
  by_cases looks : LooksInto command r user key token
  · obtain rfl := looked looks (by omega)
    simp only [looks, true_and]
    cases opening : r.opening? limit.toNat with
    | none =>
      rw [Response.openingText_of_none opening] at ended
      obtain rfl := Response.eq_ok_of_endsAs ended
      simp
    | some bytes =>
      rw [Response.openingText_of_some opening] at ended
      cases decoded : r.decode bytes with
      | ok text =>
        rw [decoded] at ended
        obtain rfl := Response.eq_ok_of_endsAs ended
        simp [decoded, Text.isWithin_iff]
      | error failure =>
        rw [decoded] at ended
        obtain ⟨fault, rfl, kind⟩ := Response.exists_eq_error_of_endsAs ended
        refine ⟨by simp [decoded], by simp [decoded], ?_⟩
        rintro _ _ other ⟨⟩ ⟨⟩ failed
        obtain rfl : failure = other := Except.error.inj (decoded.symm.trans failed)
        exact kind
  · obtain rfl := aside looks
    obtain rfl := Response.eq_ok_of_endsAs ended
    simp [looks]

end

/-- The marker comes in two pieces, behind which the line breaks, and the release fails as well. -/
def cutShort : Response where
  status := 401
  body := .pending [[114, 101], [], [110, 101, 119]]
  breaks := some (.ofKind .io)
  closeFails := some (.ofKind .io)

def offering (r : Response) : World Store where
  clock := 0
  own := { wire := { server := fun _ => { outcome := .ok {} }, responses := #[r] } }

def asked : Request :=
  { endpoint := .text "http://h", headers := [(.text "X-Token", .text "t")] }

def forgetting : Act Store Unit := Store.sessionSlot.change Cell.invalidate

/-- A body that is readable just as far as the limit tells of the end of the lease, and the session
is forgotten. -/
theorem accepts_exactly_lapsed_cutShort :
    let renewal : Renewal := { marker := .text "renew", maxPayload := .int 5 }
    let command := Command.of asked
    let played := ((RetryHandler.renew renewal forgetting).shouldRetry command 0).play
      (offering cutShort)
    Renews renewal forgetting "renew" "X-Auth-User" "X-Auth-Key" "X-Auth-Token" 5
        (fun s => { s with sessions := s.sessions.invalidate }) ∧
      (1 : Int) ≤ 5 ∧ Wire.Holds (offering cutShort) 0 cutShort ∧ command.current.headers.Named ∧
      (∀ plan, cutShort.breaks = some plan → plan.kind.isReadFailure) ∧
      (∀ plan, cutShort.closeFails = some plan → plan.kind.isIo) ∧
      played.1 = .ok true ∧ played.2.own.sessions.generation = 1 := by
  intro renewal command played
  have renews : Renews renewal forgetting "renew" "X-Auth-User" "X-Auth-Key" "X-Auth-Token" 5
      fun s => { s with sessions := s.sessions.invalidate } :=
    ⟨rfl, rfl, rfl, rfl, rfl, fun _ => rfl, fun _ => rfl⟩
  have holds : Wire.Holds (offering cutShort) 0 cutShort := ⟨Nat.zero_lt_one, rfl⟩
  have named : command.current.headers.Named := by
    intro entry member
    obtain rfl := List.mem_singleton.mp member
    exact ⟨"X-Token", rfl⟩
  have breaks : ∀ plan, cutShort.breaks = some plan → plan.kind.isReadFailure := by
    rintro _ ⟨⟩
    rfl
  have gentle : ∀ plan, cutShort.closeFails = some plan → plan.kind.isIo := by
    rintro _ ⟨⟩
    rfl
  obtain ⟨answer, body, last, log, ended, accepted, -⟩ :=
    renews.accepts_exactly_lapsed holds (by decide) named breaks gentle
  have unsigned : ¬ command.current.headers.Mentions "X-Auth-User" := by
    rw [← named.has?_eq_some_true_iff]
    decide
  obtain rfl := accepted.mpr ⟨⟨rfl, fun login => unsigned login.1⟩, [114, 101, 110, 101, 119],
    "renew", rfl, rfl, (Text.isWithin_iff _ _).mp rfl⟩
  refine ⟨renews, by decide, holds, named, breaks, gentle, ?_⟩
  change played = _ at ended
  rw [ended]
  exact ⟨rfl, rfl⟩

/-- The usual marker, announced to be in the charset of host names. -/
def misnamed : Response where
  status := 401
  body := .loaded [108, 101, 97, 115, 101, 32, 114, 101, 110, 101, 119]
  charset := some "idna"

/-- A body that its announced charset has no text for ends the handler, although the marker stands
in its bytes. The session is kept. -/
theorem not_accepts_exactly_lapsed_of_misnamed :
    let played := ((RetryHandler.renew {} forgetting).shouldRetry (Command.of asked) 0).play
      (offering misnamed)
    (∃ bytes, misnamed.opening? 4096 = some bytes ∧
      Text.isWithin Defaults.leaseMarker (Text.Charset.utf8.decode bytes)) ∧
      (∃ i, played.1 = .error i ∧ played.2.log.kind? i = some .unicode) ∧
      (¬ ∃ answer, played.1 = .ok answer) ∧ played.2.own.sessions.generation = 0 := by
  refine ⟨⟨_, rfl, rfl⟩, ⟨1, rfl, rfl⟩, ?_, rfl⟩
  rintro ⟨answer, ⟨⟩⟩

end RetryHandler

end CloudSession
