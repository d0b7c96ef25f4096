import CloudSession.Proofs.Http.Headers
import CloudSession.Proofs.Service.Keeping
import CloudSession.Proofs.Supplier.Rejection
import CloudSession.Service.Operation

/-! # Rejected OpenStack logins

A service that recognizes its own logins never sends one again that was rejected. It forgets no
session over it, but keeps the fault in its latch and sends nothing more, whatever it is asked for.
The login goes out under fixed names while it is recognized by names from settings: a service with
other names takes the answer for the end of a lease, and logs in again.
-/

namespace CloudSession.OpenStack.Service

open Act

variable (s : Service)

/-- The logins of a service. -/
def Logins (request : Request) : Prop :=
  ∃ url, s.login.url? = some url ∧ request = s.login.request url

/-- What the service looks for in a request to tell a login is there in its own logins. -/
def RecognizesLogin : Prop :=
  ∀ url, (CloudSession.Service.openstack s).renewal.isLogin? (s.login.request url) = some true

/-- The names that logins go out under, in lower case. -/
def loginNames : List String := [Text.lower Defaults.userHeader, Text.lower Defaults.keyHeader]

theorem named_login (url : String) : (s.login.request url).headers.Named := by
  intro entry member
  rcases List.mem_cons.mp member with rfl | member
  · exact ⟨_, rfl⟩
  · obtain rfl := List.mem_singleton.mp member
    exact ⟨_, rfl⟩

theorem has?_login (url name : String) : (s.login.request url).headers.has? (.text name) =
    some (decide (Text.lower name ∈ loginNames)) := by
  rw [Headers.has?_text]
  simp only [Login.request, Headers.seek?, loginNames, List.mem_cons, List.not_mem_nil, or_false,
    beq_iff_eq]
  split
  · rename_i user
    simp [user]
  · split
    · rename_i key
      simp [key]
    · rename_i other_user other_key
      simp [Ne.symm other_user, Ne.symm other_key]

variable {s}

theorem has?_login_eq_some_iff {url : String} {name : Value} {found : Bool} :
    (s.login.request url).headers.has? name = some found ↔
      ∃ text, name = .text text ∧ decide (Text.lower text ∈ loginNames) = found := by
  cases name with
  | text text => simp [has?_login]
  | _ => simp [Headers.has?, Login.request]

/-- A login is recognized where user and key are looked for under names it has, in any case, and
the token under one it has not. -/
theorem recognizesLogin_iff : s.RecognizesLogin ↔
    (∃ user, s.options.userHeader = .text user ∧ Text.lower user ∈ loginNames) ∧
    (∃ key, s.options.keyHeader = .text key ∧ Text.lower key ∈ loginNames) ∧
    ∃ token, s.options.tokenHeader = .text token ∧ Text.lower token ∉ loginNames := by
  have names : (CloudSession.Service.openstack s).renewal.userHeader = s.options.userHeader ∧
      (CloudSession.Service.openstack s).renewal.keyHeader = s.options.keyHeader ∧
      (CloudSession.Service.openstack s).renewal.tokenHeader = s.options.tokenHeader :=
    ⟨rfl, rfl, rfl⟩
  simp only [RecognizesLogin, Renewal.isLogin?_eq_some_true_iff, has?_login_eq_some_iff, names,
    decide_eq_true_eq, decide_eq_false_iff_not, forall_const]

theorem keeps_sessions_of_recognized (recognized : s.RecognizesLogin) :
    Keeps (Alike Store.sessions) s.login.authenticate := by
  let quiet : RetryHandler Store := .delegating
    (.renew (CloudSession.Service.openstack s).renewal (pure ()))
    (.backoff { limit := s.options.maxRetries, delayStart := s.options.retryDelayStart })
  let client : Client Store := { s.client with retry := some quiet }
  have same : s.login.authenticate = { s.login with client := client }.authenticate := by
    have executed (url : String) (timeout : Value) :
        s.login.client.execute (s.login.request url) timeout =
          client.execute (s.login.request url) timeout := by
      refine Client.execute_congr rfl fun failures response => ?_
      exact RetryHandler.shouldRetry_of_login (recognized url) _ _ response
    unfold Login.authenticate
    simp only [executed]
    rfl
  rw [same]
  refine Login.keeps_authenticate ⟨?_, ?_⟩ ⟨fun _ _ => rfl, fun _ _ _ => rfl⟩
  · rintro handler ⟨⟩
    exact ⟨.pure (), trivial⟩
  · intro f member
    cases member

/-! ## Where logins are sent -/

theorem recognizes_client (recognized : s.RecognizesLogin) (url : String) :
    s.client.Recognizes (s.login.request url) where
  unfiltered := rfl
  errors := rfl
  retry := ⟨_, _, _, rfl, recognized url, .of_modifyOwn fun _ => rfl, trivial⟩

/-- What goes out for a login at a url. -/
def loginSent (s : Service) (url : String) : Sent where
  request := s.login.request url
  timeout := s.client.waiting s.options.loginTimeout
  verify := s.options.verify

/-- A login that is rejected at once is sent once, and ends on the fault that tells so. -/
theorem play_authenticate_of_rejects (recognized : s.RecognizesLogin) {url : String}
    (known : s.login.url? = some url) {w : World Store} {r : Response}
    (reply : (w.own.wire.server w.own.wire.sent.length).outcome = .ok r) (rejects : r.Rejects) :
    ∃ i w', s.login.authenticate.play w = (.error i, w') ∧
      w'.own.wire.sent = w.own.wire.sent ++ [s.loginSent url] ∧
      Blames w.own.wire.sent.length i w' := by
  obtain ⟨i, w', ended, sent, blames⟩ :=
    (recognizes_client recognized url).play_execute reply rejects s.login.timeout
  refine ⟨i, w', ?_, sent, blames⟩
  rw [Login.authenticate, known, play_bind_of_ok (play_demand _ _ _)]
  exact play_bind_of_error ended

theorem heeds_login (recognized : s.RecognizesLogin) :
    Act.Heeds s.Logins Blames s.login.authenticate := by
  refine .bind (.demand _ _) fun url => ?_
  refine .bind ((recognizes_client recognized url).heeds.execute _) fun response => .of_quiet ?_
  refine .bind (.of_own fun _ => rfl) fun r => ?_
  split
  · exact .fail _
  · exact .bind (.of_own fun _ => rfl) fun _ => .pure _

theorem heeds_sessions (recognized : s.RecognizesLogin) :
    s.sessions.Heeds s.Logins s.login.authenticate where
  cell _ _ := rfl
  latch _ _ := rfl
  unlatched := Login.keeps_authenticate
    (s.options.kept_client _ _ (.of_modifyOwn fun _ => rfl)) ⟨fun _ _ => rfl, fun _ _ _ => rfl⟩
  fetch := heeds_login recognized

theorem heeds_session (recognized : s.RecognizesLogin) :
    Act.Heeds s.Logins s.sessions.Latched s.session :=
  (heeds_sessions recognized).get none

/-- A signed request is no login of the service, as it carries what no login carries. -/
theorem not_logins_signed (recognized : s.RecognizesLogin) (asked : Request) (token : Value) :
    ¬ s.Logins (asked.withHeader s.options.tokenHeader token) := by
  rintro ⟨url, _, same⟩
  obtain ⟨-, -, name, tokens, other⟩ := recognizesLogin_iff.mp recognized
  have carried := Headers.get?_put asked.headers name token
  have headers : asked.headers.put (.text name) token = (s.login.request url).headers := by
    rw [← same, Request.withHeader, tokens]
  rw [headers] at carried
  have found := (named_login s url).has?_of_get? carried
  rw [has?_login] at found
  simp [other] at found

/-- The context sends no login but for a session. -/
theorem heeds_context (recognized : s.RecognizesLogin) (asked : Request) :
    s.context.client.Heeds s.Logins s.sessions.Latched asked := by
  have signing : s.context.client.filter asked =
      sign s.options.tokenHeader s.session asked >>= pure := rfl
  refine ⟨?_, ?_, ?_⟩
  · rw [signing]
    exact .bind (.bind (heeds_session recognized) fun _ => .demand _ _) fun _ => .pure _
  · rintro handler ⟨⟩
    exact ⟨.of_modifyOwn fun _ => rfl, trivial⟩
  · intro w current w' filtered login
    rw [signing, bind_pure] at filtered
    obtain ⟨session, _, _, filtered⟩ := exists_of_play_bind filtered
    have named := eq_some_of_play_demand filtered
    rw [Request.withHeader?] at named
    split at named
    · cases named
      exact absurd login (not_logins_signed recognized asked session.token)
    · cases named

/-! ## Every operation -/

theorem heeds_request (recognized : s.RecognizesLogin) (r : Request) (timeout : Value) :
    Act.Heeds s.Logins s.sessions.Latched (s.context.request r timeout) := by
  refine .bind ?_ fun asked => (heeds_context recognized asked).execute timeout
  refine .bind (.demand _ _) fun path => ?_
  split
  · exact .pure r
  · refine .bind (.bind (heeds_session recognized) fun _ => .pure _) fun base => ?_
    exact .bind (.demand _ _) fun url => .pure _

theorem heeds_within (c : Context) {act : Act Store ResponseId}
    (heeds : Act.Heeds s.Logins s.sessions.Latched act) :
    Act.Heeds s.Logins s.sessions.Latched (c.within act) := by
  refine heeds.settling fun outcome w => ?_
  refine ⟨{ w with own := { w.own with wire := { w.own.wire with
    closed := w.own.wire.closed + 1 } } }, ?_, rfl, ?_⟩
  · cases outcome <;> rfl
  · intro n i latched
    exact ⟨latched.1.of_quiet rfl rfl, latched.2⟩

/-- As long as no login was rejected, an operation stops at the first one that is, with its fault in
the latch. -/
theorem heeds_perform (recognized : s.RecognizesLogin) (operation : Operation) :
    Act.Heeds s.Logins s.sessions.Latched
      ((CloudSession.Service.openstack s).perform operation) := by
  cases operation with
  | request r timeout => exact .bind (heeds_request recognized r timeout) fun _ => .pure _
  | requestAndClose r =>
    exact .bind (heeds_within _ (heeds_request recognized r .null)) fun _ => .pure _
  | session => exact .bind (heeds_session recognized) fun _ => .pure _
  | endpoint =>
    exact .bind (.bind (heeds_session recognized) fun _ => .pure _) fun _ => .pure _
  | invalidate => exact .of_quiet (.bind (.of_modifyOwn fun _ => rfl) fun _ => .pure _)
  | close => exact .of_quiet (.bind (.of_modifyOwn fun _ => rfl) fun _ => .pure _)
  | pass seconds => exact .of_quiet (.of_own fun _ => rfl)
  | caches operation => exact .of_quiet (.fail _)
  | loginUri => exact .of_quiet (.fail _)

/-! ## Behind the rejection -/

/-- From one world to another nothing is sent, the latch stays and no fault is changed. -/
structure Idle (w w' : World Store) : Prop where
  quiet : Wire.Quiet w.own w'.own
  latch : w'.own.latch = w.own.latch
  log : ∀ i fault, w.log.get? i = some fault → w'.log.get? i = some fault

theorem Idle.refl (w : World Store) : Idle w w := ⟨rfl, rfl, fun _ _ => id⟩

theorem Idle.trans {w w' w'' : World Store} (first : Idle w w') (second : Idle w' w'') :
    Idle w w'' :=
  ⟨trans_of Wire.Quiet first.quiet second.quiet, second.latch.trans first.latch,
    fun i fault known => second.log i fault (first.log i fault known)⟩

theorem Idle.fail {α : Type} (head : FaultHead) (w : World Store) :
    Idle w ((Act.fail head : Act Store α).play w).2 := by
  refine ⟨rfl, rfl, fun i fault known => ?_⟩
  have entered : i < w.log.size := (Array.getElem?_eq_some_iff.mp known).1
  exact (FaultLog.get?_add_of_lt w.log _ entered).trans known

theorem Idle.of_error {α : Type} {act : Act Store α} {w : World Store} {i : FaultId}
    (ended : act.play w = (.error i, w)) : Idle w (act.play w).2 := by
  rw [ended]
  exact .refl w

theorem Idle.bind {α β : Type} {act : Act Store α} {next : α → Act Store β} {w : World Store}
    (first : Idle w (act.play w).2) (second : ∀ a w, Idle w ((next a).play w).2) :
    Idle w ((act >>= next).play w).2 := by
  rw [play_bind]
  cases played : act.play w with
  | mk outcome w' =>
    rw [played] at first
    cases outcome with
    | error i => exact first
    | ok a => exact first.trans (second a w')

theorem Idle.within {α : Type} (c : Context) {act : Act Store α} {w : World Store}
    (idle : Idle w (act.play w).2) : Idle w ((c.within act).play w).2 := by
  have closed : (c.within act).play w = ((act.play w).1, _) := play_andFinally_of_ok rfl rfl
  rw [closed]
  exact idle.trans ⟨rfl, rfl, fun _ _ => id⟩

theorem Idle.latched {w w' : World Store} (idle : Idle w w') {n : Nat} {i : FaultId}
    (latched : s.sessions.Latched n i w) : s.sessions.Latched n i w' := by
  obtain ⟨blames, set⟩ := latched
  have ⟨_, _, fault, _, known, _⟩ := blames
  refine ⟨blames.of_quiet idle.quiet ((idle.log i fault known).trans known.symm), ?_⟩
  exact (congrArg Latch.fault idle.latch).trans set

section

variable {w : World Store} {i : FaultId} (set : w.own.latch.fault = some i)

include set

theorem play_session_of_set : s.session.play w = (.error i, w) :=
  Supplier.play_get_of_set set none

theorem play_endpoint_of_set : s.context.endpoint.play w = (.error i, w) :=
  play_bind_of_error (play_session_of_set set)

theorem play_execute_of_set (asked : Request) (timeout : Value) :
    (s.context.client.execute asked timeout).play w = (.error i, w) :=
  Client.play_execute_of_unfiltered
    (play_bind_of_error (play_bind_of_error (play_session_of_set set)))

/-- Once the latch is set a request is not even signed. -/
theorem idle_request (r : Request) (timeout : Value) :
    Idle w ((s.context.request r timeout).play w).2 := by
  rw [Context.request, Context.address]
  cases r.endpoint.text? with
  | none => exact .fail _ w
  | some path =>
    rw [Act.demand, pure_bind]
    split
    · rw [pure_bind]
      exact .of_error (play_execute_of_set set r timeout)
    · exact .of_error (play_bind_of_error (play_bind_of_error (play_endpoint_of_set set)))

theorem idle_perform (operation : Operation) :
    Idle w (((CloudSession.Service.openstack s).perform operation).play w).2 := by
  cases operation with
  | request r timeout => exact .bind (idle_request set r timeout) fun _ _ => .refl _
  | requestAndClose r =>
    exact .bind (.within s.context (idle_request set r .null)) fun _ _ => .refl _
  | session => exact .bind (.of_error (play_session_of_set set)) fun _ _ => .refl _
  | endpoint => exact .bind (.of_error (play_endpoint_of_set set)) fun _ _ => .refl _
  | invalidate => exact ⟨rfl, rfl, fun _ _ => id⟩
  | close => exact ⟨rfl, rfl, fun _ _ => id⟩
  | pass seconds => exact ⟨rfl, rfl, fun _ _ => id⟩
  | caches operation => exact .fail _ w
  | loginUri => exact .fail _ w

theorem idle_after (later : List Operation) :
    Idle w ((CloudSession.Service.openstack s).after later w) := by
  induction later generalizing w with
  | nil => exact .refl w
  | cons operation later ih =>
    have idle := idle_perform (s := s) set operation
    exact idle.trans (ih (idle.latch ▸ set))

end

/-- Every login that was rejected was sent last, and the latch holds its fault. -/
def Halted (s : Service) (w : World Store) : Prop :=
  ∀ n, w.own.wire.Rejected s.Logins n →
    n + 1 = w.own.wire.sent.length ∧ ∃ i, s.sessions.Latched n i w

theorem halted_perform (recognized : s.RecognizesLogin) {w : World Store} (halted : s.Halted w)
    (operation : Operation) :
    s.Halted (((CloudSession.Service.openstack s).perform operation).play w).2 := by
  by_cases unrejected : w.own.wire.Unrejected s.Logins
  · intro n rejected
    obtain ⟨last, i, _, latched⟩ := heeds_perform recognized operation w unrejected n rejected
    exact ⟨last, i, latched⟩
  · obtain ⟨n, rejected⟩ := not_forall_not.mp unrejected
    obtain ⟨_, i, _, set⟩ := halted n rejected
    have idle := idle_perform (s := s) set operation
    obtain ⟨sent, -⟩ := Prod.mk.inj idle.quiet
    intro m rejected
    obtain ⟨last, i, latched⟩ := halted m (rejected.of_quiet idle.quiet.symm)
    exact ⟨last.trans (congrArg List.length sent.symm), i, idle.latched latched⟩

theorem halted_after (recognized : s.RecognizesLogin) {w : World Store} (halted : s.Halted w)
    (operations : List Operation) :
    s.Halted ((CloudSession.Service.openstack s).after operations w) := by
  induction operations generalizing w with
  | nil => exact halted
  | cons operation operations ih => exact ih (halted_perform recognized halted operation)

/-- What the rejection of the login of a number comes to. -/
structure Refused (s : Service) (n : Nat) (w : World Store) : Prop where
  /-- The login was sent once: nothing was sent behind it. -/
  last : n + 1 = w.own.wire.sent.length
  /-- The latch holds the fault of authorization that names it and quotes the response. -/
  latched : ∃ i, w.own.latch.fault = some i ∧ w.log.kind? i = some (.problem .authorization) ∧
    Blames n i w
  /-- Whatever is asked for later, nothing more is sent and the latch stays. -/
  final : ∀ later, ((CloudSession.Service.openstack s).after later w).own.wire.sent =
      w.own.wire.sent ∧
    ((CloudSession.Service.openstack s).after later w).own.latch = w.own.latch

/-- Whatever else the settings of a service hold that recognizes its logins, a login leaves the
session cache alone whichever way it ends; one that is rejected at once is sent once, and ends on
the fault that tells so; and a login that is rejected at any point of any row of operations is the
end of all requests. -/
theorem login_rejected_for_good (s : Service) (recognized : s.RecognizesLogin) (start : World Store)
    (unrejected : start.own.wire.Unrejected s.Logins) (operations : List Operation) :
    (∀ w, (s.login.authenticate.play w).2.own.sessions = w.own.sessions) ∧
    (∀ url w r, s.login.url? = some url →
      (w.own.wire.server w.own.wire.sent.length).outcome = .ok r → r.Rejects →
      ∃ i w', s.login.authenticate.play w = (.error i, w') ∧
        w'.own.wire.sent = w.own.wire.sent ++ [s.loginSent url] ∧
        Blames w.own.wire.sent.length i w') ∧
    ∀ n, ((CloudSession.Service.openstack s).after operations start).own.wire.Rejected s.Logins n →
      s.Refused n ((CloudSession.Service.openstack s).after operations start) := by
  refine ⟨keeps_sessions_of_recognized recognized, ?_, fun n rejected => ?_⟩
  · intro url w r known reply rejects
    exact play_authenticate_of_rejects recognized known reply rejects
  · have halted := halted_after recognized (fun m before => absurd before (unrejected m)) operations
    obtain ⟨last, i, blames, set⟩ := halted n rejected
    refine ⟨last, ⟨i, set, blames.kind?, blames⟩, fun later => ?_⟩
    have idle := idle_after (s := s) set later
    exact ⟨(Prod.mk.inj idle.quiet).1, idle.latch⟩

/-- A service with default settings, but for the name under which it looks for the user of a
login. -/
def seeking (user : String) : Service where
  options :=
    { provider := .openstack, endpoint := .text "https://h", identity := .text "jsmith"
      credential := .text "qwerty", apiVersion := .text "1.0", loginEndpoint := .null, verify := .on
      maxRetries := .int Defaults.maxRetries, retryDelayStart := .number Defaults.retryDelayStart
      timeout := .int Defaults.httpTimeout, sessionInterval := .int Defaults.sessionInterval
      loginTimeout := .int Defaults.loginTimeout, versionsTimeout := .int Defaults.versionsTimeout
      fetchAttempts := Defaults.fetchAttempts, leaseMarker := .text Defaults.leaseMarker
      userHeader := .text user, keyHeader := .text Defaults.keyHeader
      tokenHeader := .text Defaults.tokenHeader, maxPayload := .int Defaults.maxPayloadBytes }

/-- A rejection in bytes that spell the marker. -/
def marked : Response where
  status := 401
  body := .loaded [108, 101, 97, 115, 101, 32, 114, 101, 110, 101, 119]

theorem rejects_marked : marked.Rejects where
  status := rfl
  whole := ⟨_, rfl⟩
  mild := by rintro _ ⟨⟩
  gentle := by rintro _ ⟨⟩

/-- A server that rejects the first login, and takes the next. -/
def rejecting : Nat → Reply
  | 0 => { outcome := .ok marked }
  | _ => { outcome := .ok { status := 204, headers := [("X-Auth-Token", "token-1")] } }

def facing (server : Nat → Reply) : World Store where
  clock := 0
  own := { wire := { server := server } }

theorem unrejected_facing (s : Service) (server : Nat → Reply) :
    (facing server).own.wire.Unrejected s.Logins := by
  rintro n ⟨request, r, answers, _⟩
  have none_sent : (none : Option Request) = some request := answers.sent
  cases none_sent

/-- A marker in the answer makes no difference. -/
theorem login_rejected_for_good_with_marker :
    let s := seeking "x-auth-USER"
    let w := (CloudSession.Service.openstack s).after [.session] (facing rejecting)
    s.RecognizesLogin ∧ (facing rejecting).own.wire.Unrejected s.Logins ∧
      (∃ i w', s.login.authenticate.play (facing rejecting) = (.error i, w') ∧
        w'.own.wire.sent = [s.loginSent "https://h/v1.0"]) ∧
      w.own.wire.Rejected s.Logins 0 ∧ s.Refused 0 w :=
  have recognized : (seeking "x-auth-USER").RecognizesLogin := fun _ => rfl
  have unrejected := unrejected_facing (seeking "x-auth-USER") rejecting
  have rejected : ((CloudSession.Service.openstack (seeking "x-auth-USER")).after [.session]
      (facing rejecting)).own.wire.Rejected (seeking "x-auth-USER").Logins 0 :=
    ⟨(seeking "x-auth-USER").login.request "https://h/v1.0", _, ⟨rfl, rfl⟩, ⟨_, rfl, rfl⟩,
      rejects_marked⟩
  have ⟨_, once, refused⟩ := login_rejected_for_good _ recognized _ unrejected [.session]
  have ⟨i, w', ended, sent, _⟩ := once "https://h/v1.0" (facing rejecting) _ rfl rfl rejects_marked
  ⟨recognized, unrejected, ⟨i, w', ended, sent⟩, rejected, refused 0 rejected⟩

/-- A service that looks for the user under another name than its logins have forgets its session
over the answer, sends the login again, and leaves the latch open. -/
theorem login_sent_again_under_other_name :
    let s := seeking "X-Custom-User"
    let w := (CloudSession.Service.openstack s).after [.session] (facing rejecting)
    let login := s.login.request "https://h/v1.0"
    w.own.wire.Rejected s.Logins 0 ∧ ¬ s.RecognizesLogin ∧
      w.own.wire.sent.map (·.request) = [login, login] ∧ w.own.sessions.generation = 1 ∧
      w.own.latch.fault = none :=
  ⟨⟨_, _, ⟨rfl, rfl⟩, ⟨"https://h/v1.0", rfl, rfl⟩, rejects_marked⟩,
    fun recognized => absurd (recognized "") (by decide), rfl, rfl, rfl⟩

end CloudSession.OpenStack.Service
