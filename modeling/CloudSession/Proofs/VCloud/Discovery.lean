import CloudSession.Proofs.VCloud.LoginUri

/-! # One discovery

A discovery that yields a login uri is the last one. Behind those that came to nothing each session
takes another.
-/

namespace CloudSession.VCloud.Service

open Act

variable {s : Service} {w : World Store}

/-! ## Readings of the clock -/

/-- A reading of the clock in the course of operations: the next operation is being carried out, or
there is none left. -/
def Reads (s : Service) (start : World Store) (operations : List Operation) (t : Float) : Prop :=
  ∃ earlier later n naps, operations = earlier ++ later ∧
    Passes ((CloudSession.Service.vcloud s).after earlier start)
      ((CloudSession.Service.vcloud s).after (earlier ++ later.take 1) start) n naps t

/-- Where nothing moves the clock far, its readings stay below a bound. -/
theorem Passes.within {begun ended : World Store} {n : Nat} {naps : List Float} {t : Float}
    {high : Int} (passes : Passes begun ended n naps t) (low : -1074 ≤ high) (top : high ≤ 971)
    (start : Clock.Within high begun.clock)
    (replies : ∀ n, Clock.Within (high - 54) (begun.own.wire.server n).takes)
    (short : ∀ x ∈ ended.naps, Clock.Within (high - 54) x) : Clock.Within high t := by
  induction passes with
  | start => exact start
  | reply _ _ within => exact within.add (replies _) low top
  | nap taken _ within =>
    have among := taken.subset (List.mem_append_right _ List.mem_cons_self)
    exact within.add (short _ among) low top

/-! ## Flights at rest -/

theorem settling_sessions : s.Caching (Supplier.Settles Store.sessionSlot) where
  sendable := ⟨fun _ _ => .inr rfl, fun _ _ _ => .inr rfl⟩
  invalidate := .bind (.of_modifyOwn fun _ => .inl rfl) fun _ => .of_modifyOwn fun _ => .inr rfl
  loginUri keeps :=
    Supplier.Kept.get (s := s.loginUris)
      ⟨fun _ _ => .inr rfl, fun _ _ => .inr rfl, fun w _ => keeps w⟩ none
  session keeps := Supplier.settles_get (s := s.sessions) keeps none
  orgs keeps :=
    Supplier.Kept.get (s := s.orgMaps)
      ⟨fun _ _ => .inr rfl, fun _ _ => .inr rfl, fun w _ => keeps w⟩ none

theorem settling_loginUris : s.Caching (Supplier.Settles Store.loginUriSlot) where
  sendable := ⟨fun _ _ => .inr rfl, fun _ _ _ => .inr rfl⟩
  invalidate := .bind (.of_modifyOwn fun _ => .inr rfl) fun _ => .of_modifyOwn fun _ => .inr rfl
  loginUri keeps := Supplier.settles_get (s := s.loginUris) keeps none
  session keeps :=
    Supplier.Kept.get (s := s.sessions)
      ⟨fun _ _ => .inr rfl, fun _ _ => .inr rfl, fun w _ => keeps w⟩ none
  orgs keeps :=
    Supplier.Kept.get (s := s.orgMaps)
      ⟨fun _ _ => .inr rfl, fun _ _ => .inr rfl, fun w _ => keeps w⟩ none

/-- No flight of the session or of the login uri is under way. -/
structure Resting (state : Store) : Prop where
  session : state.sessions.flight = none
  loginUri : state.loginUris.flight = none

theorem Resting.after (resting : Resting w.own) (operations : List Operation) :
    Resting ((CloudSession.Service.vcloud s).after operations w).own where
  session := by
    have settles := leads_after (s := s)
      (fun operation (_ : operation ∈ operations) =>
        settling_sessions.operating (fun _ _ => .inr rfl) operation) w
    exact settles.elim id fun same => same.trans resting.session
  loginUri := by
    have settles := leads_after (s := s)
      (fun operation (_ : operation ∈ operations) =>
        settling_loginUris.operating (fun _ _ => .inr rfl) operation) w
    exact settles.elim id fun same => same.trans resting.loginUri

/-! ## Discoveries to come -/

/-- Operations leave what was sent and who answers as they are. -/
theorem onward_after (operations : List Operation) (w : World Store) :
    Store.Onward w.own ((CloudSession.Service.vcloud s).after operations w).own := by
  have caching : s.Caching Store.Onward := s.caching_of_tolerant Store.tolerant_onward
  exact leads_after (fun operation (_ : operation ∈ operations) =>
    caching.operating (fun _ _ => .of_same rfl rfl) operation) w

/-- Where neither a session nor a login uri is to be had, a session takes a discovery first of
all. -/
theorem discovers_first {reader : Reader} (reads : s.versions = some reader)
    (undeclared : s.options.loginEndpoint.holds = false) {url : String}
    (known : s.versionsUrl? = some url) (unset : w.own.latch.fault = none)
    (sessionless : w.own.sessions.arrive s.sessions.ttl w.clock = .leads)
    (uriless : w.own.loginUris.arrive s.loginUris.ttl w.clock = .leads) :
    ∃ later, (s.caches.session.play w).2.own.wire.sent = w.own.wire.sent ++
      ⟨{ endpoint := .text url }, s.client.waiting s.options.versionsTimeout, s.options.verify⟩ ::
        later := by
  have caching : s.Caching Store.Onward := s.caching_of_tolerant Store.tolerant_onward
  -- Each cache calls its fetch first, and each fetch does what it takes first.
  let calling : World Store := { w with own := { w.own with sessions := w.own.sessions.launch } }
  let asking : World Store :=
    { calling with own := { calling.own with loginUris := calling.own.loginUris.launch } }
  have session : Store.Onward (s.login.login.play calling).2.own (s.caches.session.play w).2.own :=
    (s.kept_sessions Store.tolerant_onward).behind_get unset sessionless
  have login : Store.Onward (s.loginUri.play calling).2.own (s.login.login.play calling).2.own :=
    Leads.behind (R := OnOwn Store.Onward)
      (fun uri => Login.leads_loginAt .onOwn
        (caching.kept_client.leading caching.sendable (s.login.request uri) _)) calling
  have loginUri : Store.Onward (s.findLoginUri.play asking).2.own (s.loginUri.play calling).2.own :=
    Supplier.Kept.behind_get (s := s.loginUris)
      ⟨fun _ _ => .of_same rfl rfl, fun _ _ => .of_same rfl rfl,
        fun w _ => caching.keeps_findLoginUri w⟩ unset uriless
  have found : Store.Onward
      ((s.client.execute { endpoint := .text url } s.options.versionsTimeout).play asking).2.own
      (s.findLoginUri.play asking).2.own := by
    rw [findLoginUri_eq reads undeclared]
    refine trans_of Store.Onward ?_ (Leads.behind (R := OnOwn Store.Onward)
      (fun versions => .grant .onOwn _) asking)
    have joined : Url.join? s.options.endpoint [.text "versions"] = some url := known
    rw [Versions.supported, joined, play_bind_of_ok (play_demand _ _ _)]
    refine Leads.behind (R := OnOwn Store.Onward) (fun response => ?_) asking
    refine .bind (.of_same fun _ => rfl) fun r => ?_
    split
    · exact .pure _
    · exact .fail .onOwn _
  have first : Store.Onward _ _ :=
    (caching.kept_client.leading caching.sendable { endpoint := .text url }
      (s.client.waiting s.options.versionsTimeout)).behind_first_trip asking
  have quiet : ∀ handler, s.client.retry = some handler →
      handler.Keeps (Alike fun state : Store => state.wire.sent) :=
    keeps_retry (.bind (.of_modifyOwn fun _ => rfl) fun _ => .of_modifyOwn fun _ => rfl)
  have sent : ((s.client.trip { endpoint := .text url }
      (s.client.waiting s.options.versionsTimeout) 0).play asking).2.own.wire.sent = _ ++ [_] :=
    Client.sent_trip quiet
      (show (s.client.filter { endpoint := .text url }).play asking = (.ok _, asking) from rfl)
  have onward := trans_of Store.Onward first (trans_of Store.Onward found
    (trans_of Store.Onward loginUri (trans_of Store.Onward login session)))
  obtain ⟨later, grown⟩ := onward.sent
  refine ⟨later, ?_⟩
  rw [← grown, List.append_cons]
  exact congrArg (· ++ later) sent

/-- No operation of a row ends on a fault of authorization. -/
def Peaceful (s : Service) : List Operation → World Store → Prop
  | [], _ => True
  | operation :: operations, w =>
    (∀ i w', ((CloudSession.Service.vcloud s).perform operation).play w = (.error i, w') →
      w'.log.kind? i ≠ some (.problem .authorization)) ∧
    Peaceful s operations (((CloudSession.Service.vcloud s).perform operation).play w).2

/-- Where nothing but discoveries was sent nobody logged in, so an open latch stays open over
whatever does not end on a fault of authorization. -/
theorem unset_perform (discoveries : ∀ sent ∈ w.own.wire.sent, s.Discovers sent.request)
    (unset : w.own.latch.fault = none) {operation : Operation} (peaceful : ∀ i w',
      ((CloudSession.Service.vcloud s).perform operation).play w = (.error i, w') →
        w'.log.kind? i ≠ some (.problem .authorization)) :
    (((CloudSession.Service.vcloud s).perform operation).play w).2.own.latch.fault = none := by
  have unrefused (n : Nat) : ¬ w.own.wire.Refused s.Logins Refuses n := by
    rintro ⟨request, r, answers, ⟨uri, login⟩, -⟩
    obtain ⟨entry, there, same⟩ := Option.map_eq_some_iff.mp answers.sent
    obtain ⟨url, -, discovery⟩ := discoveries entry (List.mem_of_getElem? there)
    cases congrArg Request.headers (login.symm.trans (same.symm.trans discovery))
  have halted := halts_perform (s := s) operation w ⟨unrefused, unset⟩
  cases played : ((CloudSession.Service.vcloud s).perform operation).play w with
  | mk outcome w' =>
    rw [played] at halted
    cases outcome with
    | ok answer => exact halted.2
    | error i =>
      rcases halted with clear | ⟨doomed, -⟩
      · exact clear.2
      · exact absurd doomed.kind (peaceful i w' played)

theorem unset_after {operations : List Operation} (discoveries : ∀ sent ∈
      ((CloudSession.Service.vcloud s).after operations w).own.wire.sent, s.Discovers sent.request)
    (peaceful : s.Peaceful operations w) (unset : w.own.latch.fault = none) :
    ((CloudSession.Service.vcloud s).after operations w).own.latch.fault = none := by
  induction operations generalizing w with
  | nil => exact unset
  | cons operation operations ih =>
    obtain ⟨later, grown⟩ := (onward_after (s := s) (operation :: operations) w).sent
    have before : ∀ sent ∈ w.own.wire.sent, s.Discovers sent.request := fun sent among =>
      discoveries sent (grown ▸ List.mem_append_left later among)
    exact ih discoveries peaceful.2 (unset_perform before unset peaceful.1)

/-! ## The whole course -/

section

variable {start : World Store} {operations : List Operation}
variable (apart : ∀ now landed, s.Reads start operations now → s.Reads start operations landed →
  Clock.Apart now landed)

/-- The surroundings between some operations and others. -/
def between {earlier later : List Operation} (whole : operations = earlier ++ later) :
    s.Setting where
  begun := (CloudSession.Service.vcloud s).after earlier start
  ended := (CloudSession.Service.vcloud s).after (earlier ++ later.take 1) start
  wanted asked := ∃ operation ∈ operations, s.Asks asked operation
  readings := s.Reads start operations
  apart := apart _ _
  read passes := ⟨earlier, later, _, _, whole, passes⟩

variable {apart}

theorem resolved_after {reader : Reader} (reads : s.versions = some reader)
    (undeclared : s.options.loginEndpoint.holds = false) {earlier later : List Operation}
    (whole : operations = earlier ++ later)
    (resolved : (between apart whole).Resolved
      ((CloudSession.Service.vcloud s).after earlier start)) :
    (between apart (List.append_nil operations).symm).Resolved
      ((CloudSession.Service.vcloud s).after operations start) := by
  induction later generalizing earlier with
  | nil =>
    obtain rfl : operations = earlier := whole.trans (List.append_nil earlier)
    exact resolved
  | cons operation later ih =>
    have following : operations = (earlier ++ [operation]) ++ later := by
      rw [whole, List.append_assoc]
      rfl
    refine ih following ?_
    have last : (CloudSession.Service.vcloud s).after (earlier ++ [operation]) start =
        (((CloudSession.Service.vcloud s).perform operation).play
          ((CloudSession.Service.vcloud s).after earlier start)).2 := by
      rw [CloudSession.Service.after, List.foldl_append]
      rfl
    have time : (between apart following).OnTime
        ((CloudSession.Service.vcloud s).after (earlier ++ [operation]) start) := fun _ => .start
    have server : (between apart following).begun.own.wire.server =
        (between apart whole).begun.own.wire.server :=
      (onward_after _ start).server.trans (onward_after _ start).server.symm
    by_cases moves : ∃ seconds, operation = .pass seconds
    · obtain ⟨seconds, rfl⟩ := moves
      exact resolved.next (by rw [last]; rfl) time server rfl rfl
    · have among : operation ∈ operations := by
        rw [whole]
        exact List.mem_append_right earlier List.mem_cons_self
      have operating : s.Operating (Retains (between apart whole).Sound) operation :=
        Setting.operating reads undeclared (fun seconds same => moves ⟨seconds, same⟩)
          fun asked asks => ⟨operation, among, asks⟩
      have sound := operating.perform _ resolved.sound
      rw [← last] at sound
      exact (sound.resolved (refl_of Forth _)).next rfl time server rfl rfl

end

/-! ## Providers, and moves of the clock -/

/-- A provider that tells where to log in when it is asked again, and lets in whoever logs in. -/
def listing : Nat → Reply
  | 0 =>
    { outcome := .ok
        { status := 401, body := .loaded [108, 101, 97, 115, 101, 32, 114, 101, 110, 101, 119] } }
  | _ =>
    { outcome := .ok
        { headers := [(Defaults.vcloudHeader, "t1")]
          versions := some [("1.0", .text "https://h/login")] } }

/-- A provider that has nothing to tell. -/
def silent : Nat → Reply := fun _ => { outcome := .ok { status := 404 } }

def outset (server : Nat → Reply) : World Store :=
  { clock := 1000, own := { wire := { server := server } } }

/-- Back and forth between sessions, which go stale or are forgotten meanwhile. -/
def overMoves : List Operation :=
  [.session, .pass (-7200), .session, .pass 10800, .caches .orgs, .invalidate, .session]

/-- Where replies take no time and nobody naps, the clock reads what the operations make it read. -/
theorem readable_discovering {server : Nat → Reply} {operations : List Operation}
    (prompt : ∀ n, Clock.Within (-73) (server n).takes)
    (begun : ∀ earlier ∈ operations.inits,
      let w := (CloudSession.Service.vcloud discovering).after earlier (outset server)
      Clock.Readable w.clock ∧ w.naps.isEmpty)
    (t : Float) (reads : discovering.Reads (outset server) operations t) : Clock.Readable t := by
  obtain ⟨earlier, later, n, naps, whole, passes⟩ := reads
  have initial : earlier <+: operations := ⟨later, whole.symm⟩
  have next : earlier ++ later.take 1 <+: operations :=
    whole ▸ (List.prefix_append_right_inj earlier).mpr (List.take_prefix 1 later)
  have bound := (begun earlier ((List.mem_inits _ _).mpr initial)).1
  refine passes.within (by decide) (by decide) bound (fun n => ?_) fun x taken => ?_
  · rw [(onward_after earlier (outset server)).server]
    exact prompt n
  · rw [List.isEmpty_iff.mp (begun _ ((List.mem_inits _ _).mpr next)).2] at taken
    cases taken

theorem prompt_listing (n : Nat) : Clock.Within (-73) (listing n).takes := by
  have still : Clock.Within (-73) 0 := by decide +kernel
  cases n <;> exact still

/-- The url of a request that says nothing but where it goes. -/
def bareUrl? : Request → Option String
  | { method := "GET", endpoint := .text url, headers := [], payload := .null, params := none } =>
    some url
  | _ => none

theorem eq_of_bareUrl? {request : Request} {url : String} (bare : bareUrl? request = some url) :
    request = { endpoint := .text url } := by
  unfold bareUrl? at bare
  split at bare
  · cases bare
    rfl
  · cases bare

/-- The second request for the list of versions is answered with one. -/
theorem yields_listing {operations : List Operation}
    (second : ((CloudSession.Service.vcloud discovering).after operations
      (outset listing)).own.wire.sent[1]?.bind (bareUrl? ·.request) = some "https://h/versions") :
    discovering.Yields ((CloudSession.Service.vcloud discovering).after operations
      (outset listing)).own.wire 1 (.text "https://h/login") := by
  obtain ⟨entry, there, bare⟩ := Option.bind_eq_some_iff.mp second
  have reply : (((CloudSession.Service.vcloud discovering).after operations
      (outset listing)).own.wire.server 1).outcome = (listing 1).outcome := by
    rw [(onward_after operations (outset listing)).server]
    rfl
  have discovers : discovering.Discovers entry.request := ⟨_, rfl, eq_of_bareUrl? bare⟩
  exact ⟨_, _, ⟨congrArg (Option.map _) there, reply⟩, discovers, by decide, rfl⟩

theorem vain_silent (n : Nat) (uri : Value) :
    ¬ discovering.Yields ((CloudSession.Service.vcloud discovering).after [.session]
      (outset silent)).own.wire n uri := by
  rintro ⟨request, r, answers, -, fine, -⟩
  have reply := answers.reply
  rw [(onward_after [.session] (outset silent)).server] at reply
  cases reply
  exact absurd fine (by decide)

theorem peaceful_silent : discovering.Peaceful [.session] (outset silent) := by
  refine ⟨fun i w' ended => ?_, trivial⟩
  have peaceful : (match ((CloudSession.Service.vcloud discovering).perform .session).play
      (outset silent) with
    | (.error i, w') => decide (w'.log.kind? i ≠ some (.problem .authorization))
    | (.ok _, _) => true) = true := by decide +kernel
  rw [ended] at peaceful
  exact of_decide_eq_true peaceful

/-! ## One discovery -/

/-- A service that is not told where to log in finds out once. Whatever the server answers, whatever
is asked for and however the clock is moved, as long as it reads what clocks can read: behind a
discovery that yielded a login uri there is none any more, and each login goes there; what else is
sent was asked for, and carries a token. As long as none yielded one, and no operation was told that
the credential is not authorized, the next session takes another discovery first of all. -/
theorem discovered_once (s : Service) {reader : Reader} (reads : s.versions = some reader)
    (undeclared : s.options.loginEndpoint.holds = false) (start : World Store)
    (fresh : start.own = { wire := { server := start.own.wire.server } })
    (operations : List Operation)
    (readable : ∀ t, s.Reads start operations t → Clock.Readable t) :
    let w := (CloudSession.Service.vcloud s).after operations start
    (∀ n uri, s.Yields w.own.wire n uri → ∀ m sent, n < m → w.own.wire.sent[m]? = some sent →
      s.Follows (fun asked => ∃ operation ∈ operations, s.Asks asked operation) uri
        sent.request) ∧
    ((∀ n uri, ¬ s.Yields w.own.wire n uri) → s.Peaceful operations start →
      ∀ url, s.versionsUrl? = some url →
        ∃ later, (s.context.session.play w).2.own.wire.sent = w.own.wire.sent ++
          ⟨{ endpoint := .text url }, s.client.waiting s.options.versionsTimeout,
            s.options.verify⟩ :: later) := by
  have apart (now landed : Float) (first : s.Reads start operations now)
      (second : s.Reads start operations landed) : Clock.Apart now landed :=
    (readable now first).apart (readable landed second)
  have begun : (between apart (List.nil_append operations).symm).Resolved start := by
    refine .inl ⟨fun _ => .start, rfl, ?_, ?_, ?_, ?_⟩
    · intro sent among
      rw [fresh] at among
      cases among
    · rintro n uri ⟨request, r, answers, -⟩
      have nothing := answers.sent
      rw [fresh] at nothing
      cases nothing
    · rw [fresh]
    · rw [fresh]
  have behind := resolved_after reads undeclared _ begun
  intro w
  refine ⟨fun n uri yields => ?_, fun vain peaceful url known => ?_⟩
  · rcases behind with unknown | ⟨uri', found⟩
    · exact absurd yields (unknown.vain n uri)
    · obtain ⟨rfl, follows⟩ := found.follows n uri yields
      exact follows
  · have unknown := behind.resolve_right fun ⟨uri, found⟩ =>
      found.yielded.elim fun n => vain n uri
    have unset : w.own.latch.fault = none :=
      unset_after unknown.sent peaceful (by rw [fresh])
    have resting : Resting w.own :=
      Resting.after ⟨by rw [fresh], by rw [fresh]⟩ operations
    exact discovers_first reads undeclared known unset
      (Cell.arrive_of_empty unknown.session resting.session)
      (Cell.arrive_of_empty unknown.uri resting.loginUri)

/-- The login uri outlasts sessions that are forgotten or go stale, and a clock that is moved back;
a provider that does not tell it is asked again. -/
theorem discovered_once_over_moves :
    let w := (CloudSession.Service.vcloud discovering).after overMoves (outset listing)
    let w' := (CloudSession.Service.vcloud discovering).after [.session] (outset silent)
    w.own.wire.sent.length = 6 ∧ w'.own.wire.sent.length = 1 ∧
      (∀ m sent, 1 < m → w.own.wire.sent[m]? = some sent →
        discovering.Follows (fun asked => ∃ operation ∈ overMoves, discovering.Asks asked operation)
          (.text "https://h/login") sent.request) ∧
      ∃ sent later, (discovering.context.session.play w').2.own.wire.sent =
        w'.own.wire.sent ++ sent :: later ∧ discovering.Discovers sent.request := by
  have still : Clock.Within (-73) 0 := by decide +kernel
  have known : discovering.versionsUrl? = some "https://h/versions" := rfl
  have once := discovered_once discovering rfl rfl (outset listing) rfl overMoves
    (readable_discovering prompt_listing (by decide +kernel))
  have again := discovered_once discovering rfl rfl (outset silent) rfl [.session]
    (readable_discovering (fun _ => still) (by decide +kernel))
  refine ⟨by decide +kernel, by decide +kernel, once.1 1 _ (yields_listing (by decide +kernel)), ?_⟩
  obtain ⟨later, record⟩ := again.2 vain_silent peaceful_silent _ known
  exact ⟨_, later, record, _, known, rfl⟩

/-- It is not so that nothing is sent to the list of versions behind a discovery that yielded a
login uri: whoever asks the context for that list is given it, with a token. -/
theorem not_discovered_once_over_request :
    ¬ ∀ operations n uri url,
      let w := (CloudSession.Service.vcloud discovering).after operations (outset listing)
      discovering.Yields w.own.wire n uri → discovering.versionsUrl? = some url →
        ∀ m sent, n < m → w.own.wire.sent[m]? = some sent →
          sent.request.endpoint.text? ≠ some url := by
  intro claimed
  have addressed : ((CloudSession.Service.vcloud discovering).after
      [.session, .request { endpoint := .text "versions" } .null]
      (outset listing)).own.wire.sent[4]?.bind (·.request.endpoint.text?) =
        some "https://h/versions" := by decide +kernel
  obtain ⟨sent, there, same⟩ := Option.bind_eq_some_iff.mp addressed
  exact claimed _ 1 _ _ (yields_listing (by decide +kernel)) rfl 4 sent (by decide) there same

end CloudSession.VCloud.Service
