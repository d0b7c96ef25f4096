import CloudSession.Proofs.Http.Client
import CloudSession.Proofs.Http.Headers
import CloudSession.Proofs.Service.Keeping

/-! # Renewal of a lease

A request that is told of the end of its lease passes through its filters again, behind an order to
forget the session. What it is sent with then is the token of a login of after that, or it ends as
that login did.
-/

namespace CloudSession

open Act

/-- Options of the kinds that their declarations ask for. -/
structure ServiceOptions.Declared (o : ServiceOptions) (marker : String)
    (maxRetries maxPayload : Int) : Prop where
  marker : o.leaseMarker = .text marker
  maxRetries : o.maxRetries.asNumber? = some (.whole maxRetries)
  maxPayload : o.maxPayload.asNumber? = some (.whole maxPayload)
  userHeader : ∃ name, o.userHeader = .text name
  keyHeader : ∃ name, o.keyHeader = .text name
  tokenHeader : ∃ name, o.tokenHeader = .text name

namespace Service

/-- The header that a session signs requests with, and what it holds: the token under the name of
the settings, or as a cookie or in a header of its own, as the provider has it. A session of a
vCloud service that has no token signs nothing. -/
inductive Signs : Service → Session → Value → Value → Prop where
  | openstack {s : OpenStack.Service} {session : Session} :
    Signs (.openstack s) session s.options.tokenHeader session.token
  | cookie {s : VCloud.Service} {session : Session} :
    s.options.provider.tokenStyle ≠ .text "header" → session.token ≠ .null →
    Signs (.vcloud s) session (.text "Cookie") (.text ("vcloud-token=" ++ session.token.display))
  | header {s : VCloud.Service} {session : Session} :
    s.options.provider.tokenStyle = .text "header" → session.token ≠ .null →
    Signs (.vcloud s) session (.text "x-vcloud-authorization") session.token

theorem style_of_ne {s : VCloud.Service} (other : s.options.provider.tokenStyle ≠ .text "header") :
    s.style = .cookie := by
  rw [VCloud.Service.style]
  unfold VCloud.TokenStyle.named
  split
  · rename_i named
    exact absurd named other
  · rfl

theorem style_of_eq {s : VCloud.Service} (own : s.options.provider.tokenStyle = .text "header") :
    s.style = .header := by
  rw [VCloud.Service.style, own]
  rfl

variable {s : Service} {marker : String} {maxRetries maxPayload : Int} {w w' : World Store}
variable {session : Session} {header value : Value} {asked : Request}

theorem exists_signs {s : VCloud.Service} (token : session.token ≠ .null) :
    ∃ header value, Signs (.vcloud s) session header value := by
  by_cases own : s.options.provider.tokenStyle = .text "header"
  · exact ⟨_, _, .header own token⟩
  · exact ⟨_, _, .cookie own token⟩

theorem renewal_marker (declared : s.options.Declared marker maxRetries maxPayload) :
    s.renewal.marker = .text marker := by
  cases s <;> exact declared.marker

theorem renewal_maxPayload (declared : s.options.Declared marker maxRetries maxPayload) :
    s.renewal.maxPayload.asNumber? = some (.whole maxPayload) := by
  cases s <;> exact declared.maxPayload

/-- A signed request is not taken for a login. -/
theorem isLogin?_signed (declared : s.options.Declared marker maxRetries maxPayload)
    (named : asked.headers.Named) (signs : s.Signs session header value) :
    s.renewal.isLogin? (asked.withHeader header value) = some false := by
  cases signs with
  | @openstack s =>
    obtain ⟨user, users⟩ := declared.userHeader
    obtain ⟨key, keys⟩ := declared.keyHeader
    obtain ⟨name, tokens⟩ := declared.tokenHeader
    have tokens : s.options.tokenHeader = .text name := tokens
    rw [tokens]
    exact Renewal.isLogin?_withHeader users keys tokens named _
  | cookie other =>
    have tokens := congrArg (Value.text ∘ VCloud.TokenStyle.carrier) (style_of_ne other)
    exact Renewal.isLogin?_withHeader rfl rfl tokens named _
  | header own =>
    have tokens := congrArg (Value.text ∘ VCloud.TokenStyle.carrier) (style_of_eq own)
    exact Renewal.isLogin?_withHeader rfl rfl tokens named _

/-! ## Signing -/

/-- A filter pass that has no session ends as the fetch of the session does. -/
theorem play_filter_of_refused {i : FaultId} (refused : s.context.session.play w = (.error i, w')) :
    (s.context.client.filter asked).play w = (.error i, w') := by
  cases s with
  | openstack s =>
    have refused : s.session.play w = (.error i, w') := refused
    exact play_bind_of_error (play_bind_of_error refused)
  | vcloud s =>
    have refused : s.caches.session.play w = (.error i, w') := refused
    exact play_bind_of_error (play_bind_of_error (play_bind_of_error refused))

/-- A filter pass that has a session signs with its token. -/
theorem play_filter_of_signs (declared : s.options.Declared marker maxRetries maxPayload)
    (had : s.context.session.play w = (.ok session, w')) (signs : s.Signs session header value) :
    (s.context.client.filter asked).play w = (.ok (asked.withHeader header value), w') := by
  have granted {s : VCloud.Service} (had : s.caches.session.play w = (.ok session, w'))
      (token : session.token ≠ .null) : s.caches.token.play w = (.ok session.token, w') := by
    rw [VCloud.Caches.token, play_bind_of_ok had, VCloud.Caches.tokenIn]
    split
    · rename_i absent
      exact absurd absent token
    · rfl
  cases signs with
  | @openstack s =>
    have had : s.session.play w = (.ok session, w') := had
    obtain ⟨name, text⟩ := declared.tokenHeader
    have named : asked.withHeader? s.options.tokenHeader session.token =
        some (asked.withHeader s.options.tokenHeader session.token) := by
      rw [show s.options.tokenHeader = .text name from text]
      rfl
    have signed : (OpenStack.sign s.options.tokenHeader s.session asked).play w =
        (.ok (asked.withHeader s.options.tokenHeader session.token), w') := by
      rw [OpenStack.sign, play_bind_of_ok had, named, play_demand]
    exact play_bind_of_ok signed
  | @cookie s _ other token =>
    have signed : (VCloud.sign s.style s.caches.token asked).play w =
        (.ok (asked.withHeader (.text "Cookie")
          (.text ("vcloud-token=" ++ session.token.display))), w') := by
      rw [VCloud.sign, play_bind_of_ok (granted had token), style_of_ne other]
      rfl
    exact play_bind_of_ok signed
  | @header s _ own token =>
    have signed : (VCloud.sign s.style s.caches.token asked).play w =
        (.ok (asked.withHeader (.text "x-vcloud-authorization") session.token), w') := by
      rw [VCloud.sign, play_bind_of_ok (granted had token), style_of_eq own]
      rfl
    exact play_bind_of_ok signed

/-- A filter pass that has a session without a token fails on its own. -/
theorem play_filter_of_tokenless (had : s.context.session.play w = (.ok session, w'))
    (tokenless : ∀ header value, ¬ s.Signs session header value) :
    ∃ i after, (s.context.client.filter asked).play w = (.error i, after) ∧
      after.own = w'.own := by
  cases s with
  | openstack s => exact absurd .openstack (tokenless _ _)
  | vcloud s =>
    have had : s.caches.session.play w = (.ok session, w') := had
    have absent : session.token = .null := by
      by_contra token
      obtain ⟨header, value, signs⟩ := exists_signs token
      exact tokenless header value signs
    have refused : ∃ i after, s.caches.token.play w = (.error i, after) ∧ after.own = w'.own := by
      rw [VCloud.Caches.token, play_bind_of_ok had, VCloud.Caches.tokenIn, absent]
      exact ⟨_, _, rfl, rfl⟩
    obtain ⟨i, after, failed, same⟩ := refused
    exact ⟨i, after, play_bind_of_error (play_bind_of_error failed), same⟩

/-- What a login ends with signs. -/
theorem exists_signs_of_login (logged_in : s.login.play w = (.ok session, w')) :
    ∃ header value, s.Signs session header value := by
  cases s with
  | openstack s => exact ⟨_, _, .openstack⟩
  | vcloud s =>
    have logged_in : s.login.login.play w = (.ok session, w') := logged_in
    obtain ⟨uri, _, _, logged_in⟩ := exists_of_play_bind logged_in
    obtain ⟨response, _, _, logged_in⟩ := exists_of_play_bind logged_in
    obtain ⟨r, _, _, logged_in⟩ := exists_of_play_bind logged_in
    split at logged_in
    · cases logged_in
    · split at logged_in
      · cases logged_in
      · split at logged_in
        · cases logged_in
        · cases logged_in
        · cases logged_in
          exact exists_signs (by rintro ⟨⟩)

end Service

/-! ## The course of a request -/

/-- A request that a context was asked for, and what it is addressed as. -/
structure Course (s : Service) where
  request : Request
  timeout : Value
  called : World Store
  asked : Request
  start : World Store
  addressed : (s.context.address request).play called = (.ok asked, start)

namespace Course

variable {s : Service} (c : Course s)

def outcome : Except FaultId ResponseId × World Store :=
  (s.context.request c.request c.timeout).play c.called

def seconds : Value := s.context.client.waiting c.timeout

/-- The request comes to a pass after some failures. -/
def Comes (failures : Nat) (top : World Store) : Prop :=
  s.context.client.Comes c.asked c.seconds c.start failures top

def pass (failures : Nat) : Act Store (Except Due ResponseId) :=
  s.context.client.trip c.asked c.seconds failures

/-- What is sent with a token: what the caller asked for, under one more header. -/
def signed (header value : Value) : Sent where
  request := { c.asked with headers := c.request.headers.put header value }
  timeout := c.seconds
  verify := s.context.client.verify

/-- No response fails to close but on input or output. -/
def ClosesGently : Prop :=
  ∀ n r plan, (c.called.own.wire.server n).outcome = .ok r → r.closeFails = some plan →
    plan.kind.isIo

variable {c} {marker : String} {maxRetries maxPayload : Int} {failures : Nat}
variable {top w w' : World Store} {session : Session} {header value : Value}

/-- An address is all that the context gives to a request. -/
theorem asked_eq : c.asked = { c.request with endpoint := c.asked.endpoint } := by
  obtain ⟨path, _, _, addressed⟩ := exists_of_play_bind c.addressed
  split at addressed
  · have same := Except.ok.inj (congrArg Prod.fst addressed)
    rw [← same]
  · obtain ⟨base, _, _, addressed⟩ := exists_of_play_bind addressed
    obtain ⟨url, _, _, addressed⟩ := exists_of_play_bind addressed
    have same := Except.ok.inj (congrArg Prod.fst addressed)
    rw [← same]

theorem outcome_eq (comes : c.Comes failures top) :
    c.outcome = (s.context.client.rest c.asked c.seconds failures).play top := by
  have executed := Client.Comes.play_execute comes
  rw [outcome, Context.request, play_bind_of_ok c.addressed]
  exact executed

/-- The request ends with a pass unless another one follows it. -/
def Ends (c : Course s) (maxRetries : Int) (failures : Nat) :
    Except FaultId (Except Due ResponseId) × World Store → Prop
  | (.ok (.ok response), w) => c.outcome = (.ok response, w)
  | (.error i, w) => c.outcome = (.error i, w)
  | (.ok (.error due), w) =>
    if (failures : Int) < maxRetries then c.Comes (failures + 1) w
    else c.outcome = (s.context.client.giveUp due).play w ∧
      c.outcome.2.own.wire.sent = w.own.wire.sent

/-- A pass whose filters fail is the end of the request. -/
theorem outcome_of_unfiltered (comes : c.Comes failures top) {i : FaultId}
    (unfiltered : (s.context.client.filter c.asked).play top = (.error i, w')) :
    c.outcome = (.error i, w') := by
  rw [outcome_eq comes]
  exact Client.play_rest_of_error (Client.play_trip_of_unfiltered unfiltered)

/-- The server is the one that the caller knew. -/
theorem server_eq (comes : c.Comes failures top) :
    top.own.wire.server = c.called.own.wire.server := by
  have addressed := s.keeps_address Store.tolerant_onward c.request c.called
  rw [c.addressed] at addressed
  induction comes with
  | first => exact addressed.server
  | @again failures limit w w' due _ _ _ passed ih =>
    have kept := (s.kept_client Store.tolerant_onward).trip Store.tolerant_onward.toSendable
      c.asked c.seconds failures w
    rw [passed] at kept
    exact kept.server.trans ih

/-- A pass with a token sends one request, which is signed with it. -/
theorem sent_pass (declared : s.options.Declared marker maxRetries maxPayload)
    (had : s.context.session.play w = (.ok session, w')) (signs : s.Signs session header value)
    (failures : Nat) :
    ((c.pass failures).play w).2.own.wire.sent = w'.own.wire.sent ++ [c.signed header value] := by
  have filtered : (s.context.client.filter c.asked).play w =
      (.ok (c.asked.withHeader header value), w') :=
    Service.play_filter_of_signs declared had signs
  have quiet : ∀ handler, s.context.client.retry = some handler →
      handler.Keeps (Alike fun state : Store => state.wire.sent) := by
    rw [s.retry_eq]
    rintro handler ⟨⟩
    refine ⟨?_, trivial⟩
    intro w
    rw [s.play_invalidate]
    cases s <;> rfl
  have headers : c.asked.headers = c.request.headers := by rw [asked_eq]
  refine (Client.sent_trip quiet filtered).trans ?_
  rw [signed, Request.withHeader, headers]
  rfl

/-- A send that is answered has its response at hand, which is one of the server's. -/
theorem holds_of_answered (gently : c.ClosesGently)
    (same : w.own.wire.server = c.called.own.wire.server) {sent : Sent} {response : ResponseId}
    (answered : (Wire.send sent).play w = (.ok response, w')) :
    ∃ r, Wire.Holds w' response r ∧ ∀ plan, r.closeFails = some plan → plan.kind.isIo := by
  obtain ⟨r, answer, holds⟩ := Wire.Holds.of_send answered
  have known : (c.called.own.wire.server w.own.wire.sent.length).outcome = .ok r := by
    rw [← same]
    exact answer
  exact ⟨r, holds, fun plan => gently _ r plan known⟩

theorem limit?_of_declared (s : Service)
    (declared : s.options.Declared marker maxRetries maxPayload) :
    s.context.client.limit? = some maxRetries.toNat := by
  rw [s.limit?_eq, declared.maxRetries, Option.map_some, Number.floor_whole]

theorem ends_pass (declared : s.options.Declared marker maxRetries maxPayload)
    (comes : c.Comes failures top) : c.Ends maxRetries failures ((c.pass failures).play top) := by
  have rest := outcome_eq comes
  have limit := limit?_of_declared s declared
  cases passed : (c.pass failures).play top with
  | mk result w =>
    cases result with
    | error i => exact rest.trans (Client.play_rest_of_error passed)
    | ok turn =>
      cases turn with
      | ok response => exact rest.trans (Client.play_rest_of_over passed)
      | error due =>
        by_cases fewer : (failures : Int) < maxRetries
        · simp only [Ends, fewer, if_true]
          exact .again comes limit (by omega) passed
        · have given_up := rest.trans (Client.play_rest_of_spent limit (by omega) passed)
          have quiet := Client.keeps_giveUp (R := Alike fun state : Store => state.wire.sent)
            (c := s.context.client) (fun _ _ => rfl) due w
          simp only [Ends, fewer, if_false]
          exact ⟨given_up, given_up ▸ quiet⟩

/-- A response that tells of the end of the lease leads to the next pass, and all that was done
since is that the session was forgotten. -/
theorem comes_of_lapsed (declared : s.options.Declared marker maxRetries maxPayload)
    (named : c.request.headers.Named) (gently : c.ClosesGently) (comes : c.Comes failures top)
    (fewer : (failures : Int) < maxRetries)
    (had : s.context.session.play top = (.ok session, w)) (signs : s.Signs session header value)
    {response : ResponseId}
    (answered : (Wire.send (c.signed header value)).play w = (.ok response, w'))
    (lapsed : (w'.own.wire.responses[response]?.getD {}).Lapsed marker maxPayload) :
    ∃ next, c.Comes (failures + 1) next ∧
      next.own.sessions = w'.own.sessions.invalidate ∧
      next.own.wire.sent = w'.own.wire.sent := by
  have headers : c.asked.headers = c.request.headers := by rw [asked_eq]
  have onward := s.keeps_session Store.tolerant_onward top
  rw [had] at onward
  obtain ⟨r, holds, gentle⟩ :=
    holds_of_answered gently (onward.server.trans (server_eq comes)) answered
  rw [show w'.own.wire.responses[response]?.getD {} = r from holds.here] at lapsed
  have filtered : (s.context.client.filter c.asked).play top =
      (.ok (c.asked.withHeader header value), w) :=
    Service.play_filter_of_signs declared had signs
  let command : Command := ⟨c.asked, c.asked.withHeader header value, failures⟩
  have signed_since : s.renewal.isLogin? command.current = some false :=
    Service.isLogin?_signed declared (headers ▸ named) signs
  obtain ⟨first, last, log, renewed⟩ := RetryHandler.play_shouldRetry_of_lapsed holds lapsed gentle
    (Service.renewal_marker declared) (Service.renewal_maxPayload declared) signed_since
    s.play_invalidate s.read_forget
    (.backoff { limit := s.options.maxRetries, delayStart := s.options.retryDelayStart })
  have accepted := renewed
  rw [← Client.accepts_of_retry s.retry_eq] at accepted
  have failed : ¬ r.status < 300 := by
    rw [lapsed.status]
    decide
  have limit := limit?_of_declared s declared
  have sent : c.signed header value = ⟨c.asked.withHeader header value, c.seconds,
      s.context.client.verify⟩ := by
    rw [signed, Request.withHeader, headers]
  rw [sent] at answered
  have passed := Client.play_trip_of_accepted filtered answered holds failed accepted
  refine ⟨_, .again comes limit (by omega) passed, ?_, ?_⟩
  · cases s <;> rfl
  · cases s <;> rfl

/-- A session that is had after an order to forget is one of a login of since then. -/
theorem obtains_of_forgotten {session : Session} {cell : Cell Session}
    (forgotten : w.own.sessions = cell.invalidate)
    (had : s.context.session.play w = (.ok session, w')) :
    Supplier.Obtains Store.Onward s.login session w w' := by
  have slot : s.sessions.cell.read w.own = cell.invalidate := by
    rw [← forgotten]
    cases s <;> rfl
  rw [s.session_eq] at had
  refine s.kept_sessions.obtains_get ?_ had
  rw [slot, Cell.arrive_invalidate]

/-- What becomes of a request at a pass. -/
structure Passes (c : Course s) (marker : String) (maxRetries maxPayload : Int) (failures : Nat)
    (top : World Store) : Prop where
  ends : c.Ends maxRetries failures ((c.pass failures).play top)
  /-- Without a session it ends as the fetch of the session does. -/
  refused : ∀ i w, s.context.session.play top = (.error i, w) → c.outcome = (.error i, w)
  /-- With a session that has no token it ends, and is not sent. -/
  tokenless : ∀ session w, s.context.session.play top = (.ok session, w) →
    (∀ header value, ¬ s.Signs session header value) →
      ∃ i w', c.outcome = (.error i, w') ∧ w'.own = w.own
  /-- Else it is sent once, with the headers of the caller and the token of that session. -/
  sent : ∀ session header value w, s.context.session.play top = (.ok session, w) →
    s.Signs session header value →
      ((c.pass failures).play top).2.own.wire.sent = w.own.wire.sent ++ [c.signed header value]
  /-- Where the answer tells of the end of the lease, the session is forgotten once and the request
  comes to another pass. There is no session then, or one of a login that started since, with
  whose token it is sent. -/
  renewed : ∀ session header value w response w', s.context.session.play top = (.ok session, w) →
    s.Signs session header value →
    (Wire.send (c.signed header value)).play w = (.ok response, w') →
    (w'.own.wire.responses[response]?.getD {}).Lapsed marker maxPayload →
    (failures : Int) < maxRetries → ∃ next, c.Comes (failures + 1) next ∧
      next.own.sessions = w'.own.sessions.invalidate ∧
      next.own.wire.sent = w'.own.wire.sent ∧
      ((∃ i after, s.context.session.play next = (.error i, after) ∧
          c.outcome = (.error i, after)) ∨
        ∃ session' header' value' after, s.context.session.play next = (.ok session', after) ∧
          s.Signs session' header' value' ∧
          Supplier.Obtains Store.Onward s.login session' next after ∧
          ((c.pass (failures + 1)).play next).2.own.wire.sent =
            after.own.wire.sent ++ [c.signed header' value'])

/-- Whatever the server answers, at every pass that a request comes to it is sent at most once,
with the headers of its caller and the token that this pass came by; and whenever it is told of the
end of the lease, it comes to another pass behind one order to forget the session, and is sent with
the token of a login of after that or ends as the fetch of the session does. -/
theorem renewal_of_lapsed (c : Course s)
    (declared : s.options.Declared marker maxRetries maxPayload)
    (named : c.request.headers.Named) (gently : c.ClosesGently) :
    ∀ failures top, c.Comes failures top → c.Passes marker maxRetries maxPayload failures top := by
  intro failures top comes
  refine ⟨ends_pass declared comes, ?_, ?_, ?_, ?_⟩
  · intro i w refused
    exact outcome_of_unfiltered comes (Service.play_filter_of_refused refused)
  · intro session w had tokenless
    obtain ⟨i, w', unfiltered, same⟩ := Service.play_filter_of_tokenless had tokenless
    exact ⟨i, w', outcome_of_unfiltered comes unfiltered, same⟩
  · intro session header value w had signs
    exact sent_pass declared had signs failures
  · intro session header value w response w' had signs answered lapsed fewer
    obtain ⟨next, comes_next, forgotten, quiet⟩ :=
      comes_of_lapsed declared named gently comes fewer had signs answered lapsed
    refine ⟨next, comes_next, forgotten, quiet, ?_⟩
    cases fetched : s.context.session.play next with
    | mk result after =>
      cases result with
      | error i =>
        refine .inl ⟨i, after, rfl, ?_⟩
        exact outcome_of_unfiltered comes_next (Service.play_filter_of_refused fetched)
      | ok session' =>
        have obtained := obtains_of_forgotten forgotten fetched
        have ⟨_, _, _, logged_in, _⟩ := obtained
        obtain ⟨header', value', signs'⟩ := Service.exists_signs_of_login logged_in
        exact .inr ⟨session', header', value', after, rfl, signs', obtained,
          sent_pass declared fetched signs' (failures + 1)⟩

/-- Settings of a service whose sessions are leased. -/
def leased (provider : Provider) : ServiceOptions where
  provider := provider
  endpoint := .text "http://h"
  identity := .text "u"
  credential := .text "k"
  apiVersion := .text "1.0"
  loginEndpoint := .text "http://h/login"
  verify := .on
  maxRetries := .int 1
  retryDelayStart := .int 0
  timeout := .int 60
  sessionInterval := .int 60
  loginTimeout := .int 10
  versionsTimeout := .int 10
  fetchAttempts := 1
  leaseMarker := .text "renew"
  userHeader := .text "X-Auth-User"
  keyHeader := .text "X-Auth-Key"
  tokenHeader := .text "X-Auth-Token"
  maxPayload := .int 16

/-- The end of a lease, told in bytes that spell the marker. -/
def expired : Response where
  status := 401
  body := .loaded [114, 101, 110, 101, 119]

/-- A server that gives out tokens for services of either kind, and ends the lease of the first. -/
def ending : Nat → Reply
  | 0 =>
    { outcome := .ok
        { headers := [("X-Auth-Token", "t1"), ("x-vcloud-authorization", "t1")] } }
  | 1 => { outcome := .ok expired }
  | 2 =>
    { outcome := .ok
        { headers := [("X-Auth-Token", "t2"), ("x-vcloud-authorization", "t2")] } }
  | _ => { outcome := .ok {} }

def overLease (s : Service) : Course s where
  request := { endpoint := .text "http://h/servers", headers := [(.text "Accept", .text "*")] }
  timeout := .null
  called := { clock := 0, own := { wire := { server := ending } } }
  asked := { endpoint := .text "http://h/servers", headers := [(.text "Accept", .text "*")] }
  start := { clock := 0, own := { wire := { server := ending } } }
  addressed := rfl

theorem closesGently_overLease (s : Service) : (overLease s).ClosesGently := by
  intro n r plan answered fails
  have closes : r.closeFails = none := by
    change (ending n).outcome = .ok r at answered
    unfold ending at answered
    split at answered <;> cases answered <;> rfl
  rw [closes] at fails
  cases fails

theorem named_overLease (s : Service) : (overLease s).request.headers.Named := by
  intro entry member
  obtain rfl := List.mem_singleton.mp member
  exact ⟨"Accept", rfl⟩

/-- The world in which the answer to what was signed with a header has come. -/
def atLapse (s : Service) (header value : String) : World Store :=
  ((Wire.send ((overLease s).signed (.text header) (.text value))).play
    (s.context.session.play (overLease s).start).2).2

/-- The headers that were sent in the end, by the number of the request. -/
def headersSent (s : Service) (n : Nat) : Option (List (String × String)) :=
  (overLease s).outcome.2.own.wire.sent[n]?.map fun sent =>
    sent.request.headers.map fun entry => (entry.1.display, entry.2.display)

/-- The first pass of a request is told of the end of the lease, the second is sent with the other
token. -/
structure RenewsOnce (s : Service) (header first second : String) : Prop where
  declared : s.options.Declared "renew" 1 16
  named : (overLease s).request.headers.Named
  gently : (overLease s).ClosesGently
  comes : (overLease s).Comes 0 (overLease s).start
  signs : ∃ session, (s.context.session.play (overLease s).start).1 = .ok session ∧
    s.Signs session (.text header) (.text first)
  here : (atLapse s header first).own.wire.responses[1]? = some expired
  lapsed : expired.Lapsed "renew" 16
  renewed : ∃ next, (overLease s).Comes 1 next ∧
    next.own.sessions = (atLapse s header first).own.sessions.invalidate ∧
    next.own.wire.sent = (atLapse s header first).own.wire.sent
  ended : (overLease s).outcome.1 = .ok 3
  before : headersSent s 1 = some [("Accept", "*"), (header, first)]
  after : headersSent s 3 = some [("Accept", "*"), (header, second)]

/-- The token is renewed in whatever header it travels. -/
theorem renewal_of_lapsed_once :
    RenewsOnce (.openstack ⟨leased .openstack⟩) "X-Auth-Token" "t1" "t2" ∧
      RenewsOnce (.vcloud { options := leased .terremarkCloud }) "Cookie" "vcloud-token=t1"
        "vcloud-token=t2" ∧
      RenewsOnce (.vcloud { options := leased .greenHouseData }) "x-vcloud-authorization" "t1"
        "t2" := by
  have lapsed : expired.Lapsed "renew" 16 :=
    ⟨rfl, ⟨[114, 101, 110, 101, 119], "renew", rfl, rfl, rfl⟩,
      fun below => absurd below (by decide)⟩
  have once {s : Service} {header first second : String} {provider : Provider}
      (own : s.options = leased provider) (session : Session)
      (had : (s.context.session.play (overLease s).start).1 = .ok session)
      (signs : s.Signs session (.text header) (.text first))
      (answered : ((Wire.send ((overLease s).signed (.text header) (.text first))).play
        (s.context.session.play (overLease s).start).2).1 = .ok 1)
      (here : (atLapse s header first).own.wire.responses[1]? = some expired)
      (ended : (overLease s).outcome.1 = .ok 3)
      (before : headersSent s 1 = some [("Accept", "*"), (header, first)])
      (after : headersSent s 3 = some [("Accept", "*"), (header, second)]) :
      RenewsOnce s header first second := by
    have declared : s.options.Declared "renew" 1 16 := by
      rw [own]
      exact ⟨rfl, rfl, rfl, ⟨_, rfl⟩, ⟨_, rfl⟩, ⟨_, rfl⟩⟩
    have passes := renewal_of_lapsed (overLease s) declared (named_overLease s)
      (closesGently_overLease s) 0 (overLease s).start .first
    obtain ⟨next, comes, forgotten, quiet, -⟩ := passes.renewed session _ _ _ 1
      (atLapse s header first) (Prod.ext had rfl) signs (Prod.ext answered rfl)
      (by rwa [here, Option.getD_some]) (by decide)
    exact ⟨declared, named_overLease s, closesGently_overLease s, .first, ⟨session, had, signs⟩,
      here, lapsed, ⟨next, comes, forgotten, quiet⟩, ended, before, after⟩
  have cookies : Provider.terremarkCloud.tokenStyle ≠ .text "header" :=
    fun same => absurd (Value.text.inj same) (by decide)
  have given : (.text "t1" : Value) ≠ .null := by rintro ⟨⟩
  refine ⟨once rfl ⟨.text "t1", [], _⟩ rfl .openstack rfl rfl ?_ ?_ ?_,
    once rfl ⟨.text "t1", [], _⟩ rfl (.cookie cookies given) rfl rfl ?_ ?_ ?_,
    once rfl ⟨.text "t1", [], _⟩ rfl (.header rfl given) rfl rfl ?_ ?_ ?_⟩ <;> decide +kernel

end Course

end CloudSession
