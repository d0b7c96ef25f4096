import CloudSession.Proofs.Clock
import CloudSession.Proofs.Http.Ensuring
import CloudSession.Proofs.Supplier.Ensuring
import CloudSession.Proofs.VCloud.Keeping
import CloudSession.Proofs.VCloud.Refusal

/-! # What is known of the login uri

A service that is not told where to log in asks its provider for the list of versions, and nothing
else before it has found its login uri there. From then on it does not ask again: no order to
forget reaches what it found, which stays fresh as long as the clock can tell how old it is. Until
then each session takes a discovery of its own.
-/

namespace CloudSession

open Act

/-- What is to be kept for good is fresh at any time that is finitely far from when it landed. -/
theorem Cell.isFresh_forever {now landed : Float} (apart : Clock.Apart now landed) :
    isFresh (.real (1 / 0)) now landed = true := by
  obtain ⟨negative, m, e, difference⟩ := apart
  have forever : Scaled.ofFloat (1 / 0) = .infinite false := by decide +kernel
  rw [isFresh, Number.lt, Number.scaled, Number.scaled, difference, forever]
  rfl

namespace VCloud.Service

/-- The url of the list of versions, if the endpoint makes one. -/
def versionsUrl? (s : Service) : Option String := Url.join? s.options.endpoint [.text "versions"]

/-- The request of the service for the list of versions. -/
def Discovers (s : Service) (request : Request) : Prop :=
  ∃ url, s.versionsUrl? = some url ∧ request = { endpoint := .text url }

/-- The login uri that a response tells. -/
def uriIn? (s : Service) (r : Response) : Option Value := do
  let reader ← s.versions
  let versions ← (reader r).toOption
  (VCloud.loginUri versions s.options.apiVersion).toOption

/-- The request of a number was a discovery, which succeeded in yielding a login uri. -/
def Yields (s : Service) (wire : Wire) (n : Nat) (uri : Value) : Prop :=
  ∃ request r, wire.Answers n request r ∧ s.Discovers request ∧ r.status < 300 ∧
    s.uriIn? r = some uri

/-- What is sent once the login uri is known: logins there, and what operations ask for, with a
token. -/
structure Follows (s : Service) (wanted : Request → Prop) (uri : Value) (request : Request) :
    Prop where
  settled : ¬ s.Discovers request
  there : s.Logins request → request = s.login.request uri
  own : request = s.login.request uri ∨
    ∃ asked token, wanted asked ∧ request = asked.withHeader (.text s.style.carrier) token

/-- From one world to a later one the records of what was sent and of the naps only grow. -/
def Forth (w w' : World Store) : Prop :=
  w.own.wire.sent <+: w'.own.wire.sent ∧ w.naps <+: w'.naps

instance : IsPreorder (World Store) Forth where
  refl _ := ⟨List.prefix_rfl, List.prefix_rfl⟩
  trans _ _ _ first second := ⟨first.1.trans second.1, first.2.trans second.2⟩

theorem lax_forth : Wire.Lax Forth where
  log _ _ := ⟨List.prefix_rfl, List.prefix_rfl⟩
  responses _ _ := ⟨List.prefix_rfl, List.prefix_rfl⟩

theorem forth_send (sent : Sent) : Leads Forth (Wire.send sent : Act Store ResponseId) :=
  fun w => ⟨(Wire.keeps_send Store.tolerant_onward.toSendable sent w).sent,
    Wire.naps_send sent w ▸ List.prefix_rfl⟩

/-- The handler of the service naps, and has the session forgotten. -/
theorem leads_retry {s : Service} {R : World Store → World Store → Prop}
    (naps : ∀ w x, R w { w with naps := w.naps ++ [x], clock := w.clock + x })
    (forgets : Leads R s.invalidate) :
    ∀ handler, s.client.retry = some handler → ∀ failures : Nat, handler.Leads R failures := by
  rintro handler ⟨⟩ failures
  exact ⟨forgets, fun x _ w => naps w x⟩

theorem forth_findLoginUri (s : Service) : Leads Forth s.findLoginUri := by
  refine leads_findLoginUri lax_forth.log fun url timeout => ?_
  refine ⟨lax_forth, .pure _, ?_, ?_⟩
  · intro w current w' filtered
    cases filtered
    exact forth_send _ w
  · exact leads_retry (fun _ _ => ⟨List.prefix_rfl, List.prefix_append _ _⟩)
      fun _ => ⟨List.prefix_rfl, List.prefix_rfl⟩

/-- A reading of the clock behind so many requests and these naps, in the course from one world to
another: the clock moves as the replies of the server take their time, and by naps. -/
inductive Passes (begun ended : World Store) : Nat → List Float → Float → Prop where
  | start : Passes begun ended begun.own.wire.sent.length begun.naps begun.clock
  | reply {n : Nat} {naps : List Float} {t : Float} : n < ended.own.wire.sent.length →
    Passes begun ended n naps t →
    Passes begun ended (n + 1) naps (t + (begun.own.wire.server n).takes)
  | nap {n : Nat} {naps : List Float} {x t : Float} : naps ++ [x] <+: ended.naps →
    Passes begun ended n naps t → Passes begun ended n (naps ++ [x]) (t + x)

/-- The surroundings of a service during an operation: the worlds where it begins and ends, the
requests that are asked for, and the readings of the clock in the whole course of operations, any
two of which are finitely far apart. -/
structure Setting (s : Service) where
  begun : World Store
  ended : World Store
  wanted : Request → Prop
  readings : Float → Prop
  apart : ∀ {now landed}, readings now → readings landed → Clock.Apart now landed
  read : ∀ {n naps t}, Passes begun ended n naps t → readings t

namespace Setting

variable {s : Service} (c : s.Setting)

/-- A world from which there is no way to the end, so that the operation does not come to it. -/
def Beyond (w : World Store) : Prop := ¬ Forth w c.ended

/-- The clock reads what it may behind so many requests and these naps. -/
def OnTime (w : World Store) : Prop :=
  Forth w c.ended → Passes c.begun c.ended w.own.wire.sent.length w.naps w.clock

/-- The login uri is not known: nothing was sent but discoveries, and none of them yielded one. -/
structure Unknown (w : World Store) : Prop where
  time : c.OnTime w
  server : w.own.wire.server = c.begun.own.wire.server
  sent : ∀ sent ∈ w.own.wire.sent, s.Discovers sent.request
  vain : ∀ n uri, ¬ s.Yields w.own.wire n uri
  uri : w.own.loginUris.memo = none
  session : w.own.sessions.memo = none

/-- A discovery yielded the login uri, and what was sent behind it accords with it. -/
structure Told (uri : Value) (w : World Store) : Prop where
  time : c.OnTime w
  server : w.own.wire.server = c.begun.own.wire.server
  yielded : ∃ n, s.Yields w.own.wire n uri
  follows : ∀ n uri', s.Yields w.own.wire n uri' → uri' = uri ∧
    ∀ m sent, n < m → w.own.wire.sent[m]? = some sent → s.Follows c.wanted uri sent.request

/-- The login uri is known, and remembered. -/
structure Known (uri : Value) (w : World Store) : Prop extends c.Told uri w where
  memo : ∃ landed, w.own.loginUris.memo = some (uri, landed) ∧ c.readings landed

/-- The login uri is known, up to the end. -/
def Found (uri : Value) (w : World Store) : Prop := c.Beyond w ∨ c.Known uri w

/-- What is known between two operations. -/
def Resolved (w : World Store) : Prop := c.Unknown w ∨ ∃ uri, c.Known uri w

/-- Where no discovery is under way the login uri is known, or else nothing is. -/
def Sound (w : World Store) : Prop := c.Unknown w ∨ ∃ uri, c.Found uri w

end Setting

/-! ## Yields -/

section

variable {s : Service} {w w' : World Store} {uri uri' : Value} {n : Nat}

/-- A service that is not told where to log in asks for the versions. -/
theorem findLoginUri_eq {reader : Reader} (reads : s.versions = some reader)
    (undeclared : s.options.loginEndpoint.holds = false) :
    s.findLoginUri = (⟨s.client, s.options.endpoint, reader, s.options.versionsTimeout⟩ :
      Versions Store).uri s.options.apiVersion := by
  rw [findLoginUri, reads, undeclared]
  rfl

theorem Yields.of_quiet (yields : s.Yields w.own.wire n uri) (quiet : Wire.Quiet w.own w'.own) :
    s.Yields w'.own.wire n uri := by
  obtain ⟨request, r, answers, known⟩ := yields
  exact ⟨request, r, answers.of_quiet quiet, known⟩

theorem Yields.unique (first : s.Yields w.own.wire n uri) (second : s.Yields w.own.wire n uri') :
    uri' = uri := by
  obtain ⟨_, r, answers, -, -, known⟩ := first
  obtain ⟨_, r', answers', -, -, known'⟩ := second
  obtain rfl := Except.ok.inj (answers.reply.symm.trans answers'.reply)
  exact Option.some.inj (known'.symm.trans known)

theorem Yields.onward (yields : s.Yields w.own.wire n uri) (onward : Store.Onward w.own w'.own) :
    s.Yields w'.own.wire n uri := by
  obtain ⟨request, r, ⟨sent, reply⟩, known⟩ := yields
  obtain ⟨later, grown⟩ := onward.sent
  have here : w'.own.wire.sent[n]?.map (·.request) = some request := by
    obtain ⟨entry, there, same⟩ := Option.map_eq_some_iff.mp sent
    rw [← grown, List.getElem?_append_left (List.getElem?_eq_some_iff.mp there).1, there, ← same]
    rfl
  exact ⟨request, r, ⟨here, by rw [onward.server, reply]⟩, known⟩

end

namespace Setting

variable {s : Service} {c : s.Setting} {w w' : World Store} {uri uri' : Value} {sent : Sent}

/-! ## What makes no difference -/

theorem Unknown.of_still (unknown : c.Unknown w) (time : c.OnTime w')
    (quiet : Wire.Quiet w.own w'.own) (uri : w'.own.loginUris.memo = none)
    (session : w'.own.sessions.memo = none) : c.Unknown w' := by
  obtain ⟨sent, server⟩ := Prod.mk.inj quiet
  refine ⟨time, server.trans unknown.server, fun entry among => ?_, fun n uri yields => ?_, uri,
    session⟩
  · exact unknown.sent entry (sent ▸ among)
  · exact unknown.vain n uri (yields.of_quiet quiet.symm)

theorem Told.of_still (told : c.Told uri w) (time : c.OnTime w')
    (quiet : Wire.Quiet w.own w'.own) : c.Told uri w' := by
  obtain ⟨sent, server⟩ := Prod.mk.inj quiet
  refine ⟨time, server.trans told.server, ?_, fun n uri' yields => ?_⟩
  · obtain ⟨n, yields⟩ := told.yielded
    exact ⟨n, yields.of_quiet quiet⟩
  · obtain ⟨same, follows⟩ := told.follows n uri' (yields.of_quiet quiet.symm)
    exact ⟨same, fun m entry later there => follows m entry later (sent ▸ there)⟩

theorem Known.of_still (known : c.Known uri w) (time : c.OnTime w')
    (quiet : Wire.Quiet w.own w'.own)
    (memo : w'.own.loginUris.memo = w.own.loginUris.memo) : c.Known uri w' :=
  ⟨known.toTold.of_still time quiet, memo ▸ known.memo⟩

theorem lax_unknown : Wire.Lax (Retains c.Unknown) where
  log _ _ unknown := unknown.of_still unknown.time rfl unknown.uri unknown.session
  responses _ _ unknown := unknown.of_still unknown.time rfl unknown.uri unknown.session

theorem Found.of_still (found : c.Found uri w) (time : c.OnTime w → c.OnTime w')
    (quiet : Wire.Quiet w.own w'.own) (naps : w.naps <+: w'.naps)
    (memo : w'.own.loginUris.memo = w.own.loginUris.memo) : c.Found uri w' := by
  have sent : w'.own.wire.sent = w.own.wire.sent := congrArg Prod.fst quiet
  have forth : Forth w w' := ⟨sent ▸ List.prefix_rfl, naps⟩
  exact found.imp (fun beyond within => beyond (trans_of Forth forth within)) fun known =>
    known.of_still (time known.time) quiet memo

theorem lax_found : Wire.Lax (Retains (c.Found uri)) where
  log _ _ found := found.of_still id rfl List.prefix_rfl rfl
  responses _ _ found := found.of_still id rfl List.prefix_rfl rfl

/-- All that tells of the login uri is the clock, the wire, and two cells. -/
theorem Sound.of_still (sound : c.Sound w) (time : c.OnTime w → c.OnTime w')
    (quiet : Wire.Quiet w.own w'.own) (naps : w.naps <+: w'.naps)
    (uri : w'.own.loginUris.memo = w.own.loginUris.memo)
    (session : w.own.sessions.memo = none → w'.own.sessions.memo = none) : c.Sound w' := by
  refine sound.imp (fun unknown => ?_) fun ⟨uri', found⟩ => ⟨uri', ?_⟩
  · exact unknown.of_still (time unknown.time) quiet (uri.trans unknown.uri)
      (session unknown.session)
  · exact found.of_still time quiet naps uri

theorem lax_sound : Wire.Lax (Retains c.Sound) where
  log _ _ sound := sound.of_still id rfl List.prefix_rfl rfl id
  responses _ _ sound := sound.of_still id rfl List.prefix_rfl rfl id

theorem Resolved.sound (resolved : c.Resolved w) : c.Sound w :=
  resolved.imp_right fun ⟨uri, known⟩ => ⟨uri, .inr known⟩

theorem Sound.resolved (sound : c.Sound w) (within : Forth w c.ended) : c.Resolved w :=
  sound.imp_right fun ⟨uri, found⟩ => ⟨uri, found.resolve_left (not_not_intro within)⟩

/-- Another operation may begin where one has ended, at any time. -/
theorem Resolved.next {c' : s.Setting} (resolved : c.Resolved w) (own : w'.own = w.own)
    (time : c'.OnTime w') (server : c'.begun.own.wire.server = c.begun.own.wire.server)
    (wanted : c'.wanted = c.wanted) (readings : c'.readings = c.readings) : c'.Resolved w' := by
  rcases resolved with unknown | ⟨uri, known⟩
  · refine .inl ⟨time, ?_, ?_, ?_, ?_, ?_⟩ <;> rw [own]
    · rw [server, unknown.server]
    · exact unknown.sent
    · exact unknown.vain
    · exact unknown.uri
    · exact unknown.session
  · refine .inr ⟨uri, ⟨time, ?_, ?_, ?_⟩, ?_⟩ <;> rw [own]
    · rw [server, known.server]
    · exact known.yielded
    · rw [wanted]
      exact known.follows
    · rw [readings]
      exact known.memo

/-- A nap leaves the clock at something it may read. -/
theorem OnTime.nap (time : c.OnTime w) (x : Float) :
    c.OnTime { w with naps := w.naps ++ [x], clock := w.clock + x } := by
  intro within
  have forth : Forth w { w with naps := w.naps ++ [x], clock := w.clock + x } :=
    ⟨List.prefix_rfl, List.prefix_append _ _⟩
  exact .nap within.2 (time (trans_of Forth forth within))

theorem leads_retry_unknown : ∀ handler, s.client.retry = some handler →
    ∀ failures : Nat, handler.Leads (Retains c.Unknown) failures :=
  leads_retry
    (fun _ x unknown => unknown.of_still (unknown.time.nap x) rfl unknown.uri unknown.session)
    (fun _ unknown => unknown.of_still unknown.time rfl unknown.uri rfl)

theorem leads_retry_found : ∀ handler, s.client.retry = some handler →
    ∀ failures : Nat, handler.Leads (Retains (c.Found uri)) failures :=
  leads_retry (fun _ x found => found.of_still (·.nap x) rfl (List.prefix_append _ _) rfl)
    (fun _ found => found.of_still id rfl List.prefix_rfl rfl)

/-! ## What is sent -/

theorem OnTime.send (time : c.OnTime w) (server : w.own.wire.server = c.begun.own.wire.server)
    (sent : Sent) : c.OnTime ((Wire.send sent : Act Store ResponseId).play w).2 := by
  have record : ((Wire.send sent : Act Store ResponseId).play w).2.own.wire.sent.length =
      w.own.wire.sent.length + 1 := by
    rw [show (_ : Store).wire.sent = w.own.wire.sent ++ [sent] from Wire.sent_send sent w,
      List.length_append, List.length_singleton]
  have clock : ((Wire.send sent : Act Store ResponseId).play w).2.clock =
      w.clock + (w.own.wire.server w.own.wire.sent.length).takes := Wire.clock_send sent w
  intro within
  have more := within.1.length_le
  rw [record] at more
  rw [record, Wire.naps_send, clock, server]
  exact .reply more (time (trans_of Forth (forth_send sent w) within))

/-- There is no way back. -/
theorem leads_beyond {α : Type} {act : Act Store α} (leads : Leads Forth act) :
    Leads (Retains c.Beyond) act :=
  fun w beyond within => beyond (trans_of Forth (leads w) within)

/-- What a send adds to what was yielded is at most the answer to a discovery. -/
theorem yields_of_send {outcome : Except FaultId ResponseId} {n : Nat}
    (played : (Wire.send sent).play w = (outcome, w')) (yields : s.Yields w'.own.wire n uri) :
    s.Yields w.own.wire n uri ∨ n = w.own.wire.sent.length ∧ s.Discovers sent.request ∧
      ∃ r, (w.own.wire.server n).outcome = .ok r ∧ r.status < 300 ∧ s.uriIn? r = some uri :=
  have refused : w'.own.wire.Refused s.Discovers
      (fun r => r.status < 300 ∧ s.uriIn? r = some uri) n := yields
  Wire.refused_of_send played refused

/-- A later entry of a longer record is an old one or the last. -/
theorem follows_of_append {record : List Sent} {n m : Nat} {entry : Sent}
    (follows : ∀ m entry, n < m → record[m]? = some entry → s.Follows c.wanted uri entry.request)
    (last : s.Follows c.wanted uri sent.request) (later : n < m)
    (there : (record ++ [sent])[m]? = some entry) : s.Follows c.wanted uri entry.request := by
  by_cases old : m < record.length
  · rw [List.getElem?_append_left old] at there
    exact follows m entry later there
  · rw [List.getElem?_append_right (by omega), List.getElem?_singleton] at there
    split at there
    · exact Option.some.inj there ▸ last
    · cases there

theorem Known.send (known : c.Known uri w) (follows : s.Follows c.wanted uri sent.request) :
    c.Known uri ((Wire.send sent : Act Store ResponseId).play w).2 := by
  have onward := Wire.keeps_send Store.tolerant_onward.toSendable sent w
  have still := Wire.keeps_send (R := Alike Store.loginUris)
    ⟨fun _ _ => rfl, fun _ _ _ => rfl⟩ sent w
  have time := known.time.send known.server sent
  cases played : (Wire.send sent : Act Store ResponseId).play w with
  | mk outcome w' =>
    rw [played] at onward still time
    refine ⟨⟨time, onward.server.trans known.server, ?_, ?_⟩, ?_⟩
    · obtain ⟨n, yields⟩ := known.yielded
      exact ⟨n, yields.onward onward⟩
    · intro n uri' yields
      rcases yields_of_send played yields with before | ⟨-, discovers, -⟩
      · obtain ⟨same, behind⟩ := known.follows n uri' before
        refine ⟨same, fun m entry later there => ?_⟩
        have record : w'.own.wire.sent = w.own.wire.sent ++ [sent] := Wire.sent_of_send played
        exact follows_of_append behind follows later (record ▸ there)
      · exact absurd discovers follows.settled
    · exact (congrArg Cell.memo still) ▸ known.memo

theorem Found.send (found : c.Found uri w) (follows : s.Follows c.wanted uri sent.request) :
    c.Found uri ((Wire.send sent : Act Store ResponseId).play w).2 :=
  found.imp (leads_beyond (forth_send sent) w) fun known => known.send follows

/-! ## A discovery -/

/-- The answer to a discovery is at hand, and the login uri is known if it tells it. -/
def Answered (c : s.Setting) (response : ResponseId) (w : World Store) : Prop :=
  ∃ r, Wire.Holds w response r ∧
    match s.uriIn? r with
    | some uri => c.Told uri w
    | none => c.Unknown w

/-- Nothing is known behind a discovery that yielded nothing. -/
theorem Unknown.of_send (unknown : c.Unknown w) {outcome : Except FaultId ResponseId}
    (played : (Wire.send sent).play w = (outcome, w')) (discovers : s.Discovers sent.request)
    (vain : ∀ r uri, (w.own.wire.server w.own.wire.sent.length).outcome = .ok r → r.status < 300 →
      s.uriIn? r ≠ some uri) : c.Unknown w' := by
  have onward := Wire.keeps_send Store.tolerant_onward.toSendable sent w
  have still := Wire.keeps_send (R := Alike fun state : Store => (state.loginUris, state.sessions))
    ⟨fun _ _ => rfl, fun _ _ _ => rfl⟩ sent w
  have time := unknown.time.send unknown.server sent
  rw [played] at onward still time
  obtain ⟨uris, sessions⟩ := Prod.mk.inj still
  refine ⟨time, onward.server.trans unknown.server, fun entry among => ?_, fun n uri yields => ?_,
    (congrArg Cell.memo uris).trans unknown.uri,
    (congrArg Cell.memo sessions).trans unknown.session⟩
  · have record : w'.own.wire.sent = w.own.wire.sent ++ [sent] := Wire.sent_of_send played
    rcases List.mem_append.mp (record ▸ among) with before | own
    · exact unknown.sent entry before
    · exact List.mem_singleton.mp own ▸ discovers
  · rcases yields_of_send played yields with before | ⟨rfl, -, r, reply, fine, tells⟩
    · exact unknown.vain n uri before
    · exact vain r uri reply fine tells

/-- The login uri is known behind the first discovery that yields it. -/
theorem Unknown.told_of_send (unknown : c.Unknown w) {response : ResponseId} {r : Response}
    (played : (Wire.send sent).play w = (.ok response, w')) (discovers : s.Discovers sent.request)
    (reply : (w.own.wire.server w.own.wire.sent.length).outcome = .ok r) (fine : r.status < 300)
    (tells : s.uriIn? r = some uri) : c.Told uri w' := by
  have onward := Wire.keeps_send Store.tolerant_onward.toSendable sent w
  have time := unknown.time.send unknown.server sent
  rw [played] at onward time
  have record : w'.own.wire.sent = w.own.wire.sent ++ [sent] := Wire.sent_of_send played
  have yields : s.Yields w'.own.wire w.own.wire.sent.length uri :=
    ⟨sent.request, r, Wire.answers_of_send played reply, discovers, fine, tells⟩
  refine ⟨time, onward.server.trans unknown.server, ⟨_, yields⟩, fun n uri' other => ?_⟩
  rcases yields_of_send played other with before | ⟨rfl, -⟩
  · exact absurd before (unknown.vain n uri')
  · refine ⟨yields.unique other, fun m entry later there => ?_⟩
    have within := (List.getElem?_eq_some_iff.mp there).1
    rw [record, List.length_append, List.length_singleton] at within
    omega

/-- A request for the list of versions, from when nothing is known. -/
theorem ensures_discovery {url : String} (known : s.versionsUrl? = some url) (timeout : Value) :
    s.client.Ensures { endpoint := .text url } timeout c.Unknown c.Answered where
  lax := lax_unknown
  filters := rfl
  errors := rfl
  retry := leads_retry_unknown
  received w unknown := by
    have discovers : s.Discovers { endpoint := .text url } := ⟨url, known, rfl⟩
    cases played : (Wire.send ⟨{ endpoint := .text url }, timeout, s.client.verify⟩ :
        Act Store ResponseId).play w with
    | mk outcome w' =>
      cases outcome with
      | error i =>
        refine unknown.of_send played discovers fun r uri reply _ _ => ?_
        rw [Wire.play_send_of_ok reply] at played
        cases played
      | ok response =>
        obtain ⟨r, reply, holds⟩ := Wire.Holds.of_send played
        refine ⟨r, holds, ?_⟩
        -- What is not told in a good response is not told at all.
        have vain (silent : r.status < 300 → s.uriIn? r = none) : c.Unknown w' := by
          refine unknown.of_send played discovers fun r' uri reply' fine tells => ?_
          obtain rfl := Except.ok.inj (reply.symm.trans reply')
          rw [silent fine] at tells
          cases tells
        by_cases fine : r.status < 300
        · rw [if_pos fine]
          refine ⟨r, holds, ?_⟩
          cases tells : s.uriIn? r with
          | some uri => exact unknown.told_of_send played discovers reply fine tells
          | none => exact vain fun _ => tells
        · rw [if_neg fine]
          exact vain fun fine' => absurd fine' fine

variable {reader : Reader} (reads : s.versions = some reader)

include reads

theorem uriIn?_eq (r : Response) : s.uriIn? r =
    (reader r).toOption.bind fun versions =>
      (VCloud.loginUri versions s.options.apiVersion).toOption := by
  rw [uriIn?, reads]
  rfl

/-- Where to log in is found with a discovery that tells it, and with no other. -/
theorem ensures_findLoginUri (undeclared : s.options.loginEndpoint.holds = false) :
    Act.Ensures c.Unknown s.findLoginUri c.Told c.Unknown := by
  have fails {w : World Store} (unknown : c.Unknown w) (head : FaultHead) :
      c.Unknown ((fail head : Act Store Value).play w).2 :=
    Leads.fail (R := Retains c.Unknown) lax_unknown.log head w unknown
  rw [findLoginUri_eq reads undeclared]
  refine Ensures.bind (M := fun versions w =>
    match (VCloud.loginUri versions s.options.apiVersion).toOption with
    | some uri => c.Told uri w
    | none => c.Unknown w) ?_ fun versions => ?_
  · intro w unknown
    rw [Versions.supported]
    cases joined : Url.join? s.options.endpoint [.text "versions"] with
    | none => exact fails unknown { kind := .attribute }
    | some url =>
      rw [play_bind_of_ok (play_demand _ _ _)]
      refine ((ensures_discovery joined _).execute w unknown).bind fun response w' _ answered => ?_
      obtain ⟨r, holds, known⟩ := answered
      rw [uriIn?_eq reads] at known
      rw [play_bind_of_ok holds.play_response]
      dsimp only
      cases read : reader r with
      | ok versions =>
        rw [read] at known
        exact known
      | error kind =>
        rw [read] at known
        exact fails known { kind := kind }
  · cases VCloud.loginUri versions s.options.apiVersion with
    | ok uri => exact .pure fun _ => id
    | error head => exact fun w unknown => fails unknown head

/-! ## Requests behind the discovery -/

omit reads in
theorem follows_login (uri : Value) : s.Follows c.wanted uri (s.login.request uri) where
  settled := by
    rintro ⟨url, -, same⟩
    cases congrArg Request.headers same
  there _ := rfl
  own := .inl rfl

omit reads in
/-- A request with a token is neither a discovery nor a login. -/
theorem follows_signed {asked : Request} (wanted : c.wanted asked) (token uri : Value) :
    s.Follows c.wanted uri (asked.withHeader (.text s.style.carrier) token) where
  settled := by
    rintro ⟨url, -, same⟩
    have carried := Headers.get?_put asked.headers s.style.carrier token
    rw [show asked.headers.put (.text s.style.carrier) token = [] from
      congrArg Request.headers same] at carried
    cases carried
  there login := absurd login (not_logins_signed asked token)
  own := .inr ⟨asked, token, wanted, rfl⟩

/-! ## The caches -/

omit reads in
/-- Where the clock can tell how old it is, the login uri is not asked for again. -/
theorem Known.beyond_of_leads (known : c.Known uri w)
    (leads : w.own.loginUris.arrive s.loginUris.ttl w.clock = .leads) : c.Beyond w := by
  by_contra within
  obtain ⟨landed, memo, earlier⟩ := known.memo
  have now := c.read (known.time (not_not.mp within))
  have served : w.own.loginUris.arrive s.loginUris.ttl w.clock = .served uri :=
    Cell.arrive_eq_served_iff.mpr
      ⟨_, landed, rfl, memo, Cell.isFresh_forever (c.apart now earlier)⟩
  rw [served] at leads
  cases leads

section

variable (undeclared : s.options.loginEndpoint.holds = false)

include undeclared

/-- Whoever gets the login uri gets the one that is known from then on. -/
theorem ensures_loginUri : Act.Ensures c.Sound s.loginUri c.Found c.Sound := by
  have keeps : Keeps (Alike Store.loginUris) s.findLoginUri :=
    Requesting.keeps_findLoginUri
      ⟨⟨fun _ _ => rfl, fun _ _ _ => rfl⟩,
        .bind (.of_modifyOwn fun _ => rfl) fun _ => .of_modifyOwn fun _ => rfl⟩
  have rule : s.loginUris.Ensures s.findLoginUri c.Sound
      (fun ticket w => c.Unknown w ∧ w.own.loginUris.generation = ticket.generation ∨ c.Beyond w)
      c.Found c.Sound := by
    refine ⟨fun log sound => lax_sound.log _ log sound, ?_, ?_, ?_, ?_, ?_⟩
    · intro w uri sound served
      obtain ⟨_, landed, _, memo, _⟩ := Cell.arrive_eq_served_iff.mp served
      have memo : w.own.loginUris.memo = some (uri, landed) := memo
      rcases sound with unknown | ⟨uri', beyond | known⟩
      · rw [unknown.uri] at memo
        cases memo
      · exact .inl beyond
      · obtain ⟨_, memo', _⟩ := known.memo
        cases memo.symm.trans memo'
        exact .inr known
    · intro w sound leads
      rcases sound with unknown | ⟨uri, beyond | known⟩
      · exact .inl ⟨unknown.of_still unknown.time rfl unknown.uri unknown.session, rfl⟩
      · exact .inr beyond
      · exact .inr (known.beyond_of_leads leads)
    · intro ticket
      have same : Leads (Retains fun w => w.own.loginUris.generation = ticket.generation)
          s.findLoginUri := fun w same => (congrArg Cell.generation (keeps w)).trans same
      have beyond : Leads (Retains c.Beyond) s.findLoginUri :=
        leads_beyond s.forth_findLoginUri
      have ends := ((ensures_findLoginUri (c := c) reads undeclared).and same).or beyond
      refine ends.mono (fun _ => And.left) ?_ fun _ => id
      rintro uri w (⟨told, same⟩ | beyond)
      · by_cases within : Forth w c.ended
        · refine .inr ⟨told.of_still told.time rfl, w.clock, ?_, c.read (told.time within)⟩
          simp only [Supplier.landed, loginUris, Store.loginUriSlot, Cell.land, same, if_true]
        · exact .inl within
      · exact .inl beyond
    · rintro ticket w latch log (⟨unknown, same⟩ | beyond)
      · exact .inl ⟨unknown.of_still unknown.time rfl unknown.uri unknown.session, same⟩
      · exact .inr beyond
    · rintro ticket w (⟨unknown, same⟩ | beyond)
      · exact .inl (unknown.of_still unknown.time rfl unknown.uri unknown.session)
      · exact .inr ⟨.null, .inl beyond⟩
  exact rule.get none

/-- Where a login is refused or comes to nothing, the login uri may be known all the same. -/
theorem ensures_login :
    Act.Ensures c.Sound s.login.login (fun _ w => ∃ uri, c.Found uri w) c.Sound := by
  refine (ensures_loginUri reads undeclared).bind fun uri => ?_
  have leading : s.client.Leading (Retains (c.Found uri)) (s.login.request uri)
      (s.client.waiting s.login.timeout) := by
    refine ⟨lax_found, .pure _, ?_, leads_retry_found⟩
    intro w current w' filtered found
    cases filtered
    exact found.send (follows_login uri)
  exact (Ensures.of_leads (Login.leads_loginAt lax_found.log leading)).mono (fun _ => id)
    (fun _ _ found => ⟨uri, found⟩) fun _ found => .inr ⟨uri, found⟩

/-- There is no session but one that a login brought, so the login uri is known behind it. -/
theorem ensures_session :
    Act.Ensures c.Sound s.caches.session (fun _ w => ∃ uri, c.Found uri w) c.Sound := by
  have rule : s.sessions.Ensures s.login.login c.Sound (fun _ => c.Sound)
      (fun _ w => ∃ uri, c.Found uri w) c.Sound := by
    refine ⟨fun log sound => lax_sound.log _ log sound, ?_, ?_, ?_, ?_, ?_⟩
    · intro w session sound served
      obtain ⟨_, landed, _, memo, _⟩ := Cell.arrive_eq_served_iff.mp served
      have memo : w.own.sessions.memo = some (session, landed) := memo
      refine sound.resolve_left fun unknown => ?_
      rw [unknown.session] at memo
      cases memo
    · exact fun sound _ => sound.of_still id rfl List.prefix_rfl rfl id
    · intro ticket
      refine (ensures_login reads undeclared).mono (fun _ => And.left) ?_ fun _ => id
      rintro session w ⟨uri, found⟩
      exact ⟨uri, found.of_still id rfl List.prefix_rfl rfl⟩
    · exact fun _ _ sound => sound.of_still id rfl List.prefix_rfl rfl id
    · exact fun sound => sound.of_still id rfl List.prefix_rfl rfl id
  exact rule.get none

theorem ensures_token :
    Act.Ensures c.Sound s.caches.token (fun _ w => ∃ uri, c.Found uri w) c.Sound := by
  refine (ensures_session reads undeclared).bind fun session => .grant (fun _ _ _ => id) ?_
  exact fun w log ⟨uri, found⟩ => .inr ⟨uri, lax_found.log w log found⟩

theorem leads_session : Leads (Retains c.Sound) s.caches.session :=
  (ensures_session reads undeclared).leads (fun _ _ => .inr) fun _ => id

theorem leads_orgs : Leads (Retains c.Sound) s.caches.orgs := by
  have fetch : Leads (Retains c.Sound) (do return (← s.caches.session).directory) :=
    .bind (leads_session reads undeclared) fun _ => .pure _
  have rule : s.orgMaps.Ensures (do return (← s.caches.session).directory) c.Sound
      (fun _ => c.Sound) (fun _ => c.Sound) c.Sound := by
    refine ⟨fun log sound => lax_sound.log _ log sound, fun sound _ => sound, ?_, ?_, ?_, ?_⟩
    · exact fun sound _ => sound.of_still id rfl List.prefix_rfl rfl id
    · intro ticket
      exact (Ensures.of_leads fetch).mono (fun _ => And.left)
        (fun _ _ sound => sound.of_still id rfl List.prefix_rfl rfl id) fun _ => id
    · exact fun _ _ sound => sound.of_still id rfl List.prefix_rfl rfl id
    · exact fun sound => sound.of_still id rfl List.prefix_rfl rfl id
  exact (rule.get none).leads (fun _ _ => id) fun _ => id

/-! ## Every operation -/

/-- A request is signed with the token of a session, so the login uri is known when it is sent. -/
theorem leading_context {asked : Request} (wanted : c.wanted asked) (timeout : Value) :
    s.context.client.Leading (Retains c.Sound) asked timeout where
  lax := lax_sound
  filter := by
    refine .bind (.bind ?_ fun _ => .pure _) fun _ => .pure _
    exact (ensures_token reads undeclared).leads (fun _ _ => .inr) fun _ => id
  send := by
    intro w current w' filtered sound
    obtain ⟨signed, _, filtered, ended⟩ := exists_of_play_bind filtered
    cases ended
    obtain ⟨token, between, gotten, ended⟩ := exists_of_play_bind filtered
    cases ended
    have found := ensures_token reads undeclared w sound
    rw [gotten] at found
    obtain ⟨uri, found⟩ := found
    exact .inr ⟨uri, found.send (follows_signed wanted _ uri)⟩
  retry :=
    leads_retry (fun _ x sound => sound.of_still (·.nap x) rfl (List.prefix_append _ _) rfl id)
      fun _ sound => sound.of_still id rfl List.prefix_rfl rfl fun _ => rfl

/-- An operation that does not move the clock itself. -/
theorem operating {operation : Operation} (still : ∀ seconds, operation ≠ .pass seconds)
    (wanted : ∀ asked, s.Asks asked operation → c.wanted asked) :
    s.Operating (Retains c.Sound) operation where
  logs := lax_sound.log
  session := leads_session reads undeclared
  orgs := leads_orgs reads undeclared
  loginUri :=
    (ensures_loginUri reads undeclared).leads (fun uri _ found => .inr ⟨uri, found⟩) fun _ => id
  invalidate _ sound := sound.of_still id rfl List.prefix_rfl rfl fun _ => rfl
  close _ sound := sound.of_still id rfl List.prefix_rfl rfl id
  pass seconds known := absurd known (still seconds)
  asks asked timeout asks := leading_context reads undeclared (wanted asked asks) timeout

end

end Setting

end VCloud.Service

end CloudSession
