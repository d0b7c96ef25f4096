import CloudSession.Proofs.OpenStack.Rejection
import CloudSession.Proofs.Supplier.Spending
import Mathlib.Tactic.Ring

/-! # How much a request is amplified

A request passes through its filters a limited number of times. For its address and at each pass it
may need a session, a session takes a limited number of attempts, and the login of an attempt is
itself a request of limited passes. Whatever the server does, the three limits bound what is sent.
-/

namespace CloudSession.OpenStack.Service

open Act

variable (s : Service)

/-- How many passes may follow the first one: as many as the settings allow, none where they allow
less than that or give no number. -/
def retries : Nat := (s.options.maxRetries.asNumber?.map fun limit => limit.floor.toNat).getD 0

/-- How many attempts there may be at a session. -/
def attempts : Nat := (max 1 s.options.fetchAttempts).toNat

def LogsIn (sent : Sent) : Prop := ∃ url, s.login.url? = some url ∧ sent = s.loginSent url

/-- What goes out for a request from a world: the url that its path stands for there, under the
headers of the caller and a token. -/
def GoesOut (r : Request) (timeout : Value) (w : World Store) (sent : Sent) : Prop :=
  ∃ asked start token, (s.context.address r).play w = (.ok asked, start) ∧
    sent = ⟨asked.withHeader s.options.tokenHeader token, s.client.waiting timeout,
      s.options.verify⟩

variable (P : Sent → Prop)

theorem thrifty_login {url : String} (known : s.login.url? = some url) :
    s.client.Thrifty s.LogsIn P 0 (s.login.request url)
      (s.client.waiting s.options.loginTimeout) where
  filter := .of_quiet (.pure _)
  filtered := by
    intro w current w' filtered
    cases filtered
    exact ⟨url, known, rfl⟩
  retry := by
    rintro handler ⟨⟩
    exact ⟨.of_modifyOwn fun _ => rfl, trivial⟩

theorem spends_login : Spends P s.LogsIn 0 (s.retries + 1) s.login.authenticate := by
  intro w
  apply Spent.behind (.demand _ _)
  intro url w' had
  have executes := (s.thrifty_login P (eq_some_of_play_demand had)).execute.swap
  rw [Nat.mul_zero] at executes
  refine executes.before ?_ w'
  intro response
  refine .bind (.of_own fun _ => rfl) fun r => ?_
  split
  · exact .fail _
  · exact .bind (.of_own fun _ => rfl) fun _ => .pure _

theorem spends_session : Spends P s.LogsIn 0 (s.attempts * (s.retries + 1)) s.session := by
  have thrifty : s.sessions.Thrifty P s.LogsIn 0 (s.retries + 1) s.login.authenticate :=
    ⟨fun _ _ => rfl, fun _ _ => rfl, s.spends_login P⟩
  have attempts : s.sessions.spare + 1 = s.attempts := by
    simp only [Supplier.spare, sessions, Service.attempts]
    omega
  have spends := thrifty.get none
  rwa [attempts, Nat.mul_zero] at spends

theorem spends_address (r : Request) :
    Spends P s.LogsIn 0 (s.attempts * (s.retries + 1)) (s.context.address r) := by
  apply Spends.behind (.demand _ _)
  intro path
  split
  · exact .of_quiet (.pure r)
  · apply Spends.before
    · exact (s.spends_session P).before fun _ => .pure _
    · exact fun _ => .bind (.demand _ _) fun _ => .pure _

theorem thrifty_context {asked : Request} {timeout : Value}
    (goes : ∀ token, P ⟨asked.withHeader s.options.tokenHeader token, timeout, s.options.verify⟩) :
    s.context.client.Thrifty P s.LogsIn (s.attempts * (s.retries + 1)) asked timeout where
  filter := by
    apply Spends.before
    · exact (s.spends_session P).before fun _ => .demand _ _
    · exact fun _ => .pure _
  filtered := by
    intro w current w' filtered
    obtain ⟨signed, _, filtered, ended⟩ := exists_of_play_bind filtered
    cases ended
    obtain ⟨session, _, _, filtered⟩ := exists_of_play_bind filtered
    have named := eq_some_of_play_demand filtered
    rw [Request.withHeader?] at named
    split at named
    · cases named
      exact goes session.token
    · cases named
  retry := by
    rintro handler ⟨⟩
    exact ⟨.of_modifyOwn fun _ => rfl, trivial⟩

/-- Whatever the server answers, a request comes to an end, and what was sent until then is at most
`retries + 1` times what was asked for, and logins: at most `retries + 1` of them for each of the
attempts at a session, which is had at most once for the address and once for each pass. -/
theorem amplification_bounded (r : Request) (timeout : Value) (w : World Store) :
    ∃ outcome w' sent own logins, (s.context.request r timeout).play w = (outcome, w') ∧
      w'.own.wire.sent = w.own.wire.sent ++ sent ∧
      Outlay (s.GoesOut r timeout w) s.LogsIn own logins sent ∧
      own ≤ s.retries + 1 ∧
      logins ≤ (s.retries + 2) * s.attempts * (s.retries + 1) ∧
      sent.length ≤ (s.retries + 1) + (s.retries + 2) * s.attempts * (s.retries + 1) := by
  have spent : Spent (s.GoesOut r timeout w) s.LogsIn (0 + (s.retries + 1))
      (s.attempts * (s.retries + 1) + (s.retries + 1) * (s.attempts * (s.retries + 1)))
      w.own ((s.context.request r timeout).play w).2.own := by
    apply Spent.bind (s.spends_address _ r w)
    intro asked start addressed
    have goes (token : Value) : s.GoesOut r timeout w
        ⟨asked.withHeader s.options.tokenHeader token, s.client.waiting timeout,
          s.options.verify⟩ := ⟨asked, start, token, addressed, rfl⟩
    exact (s.thrifty_context _ goes).execute start
  obtain ⟨sent, own, logins, record, outlay, few, few_logins⟩ := spent
  have logins_bound : logins ≤ (s.retries + 2) * s.attempts * (s.retries + 1) := by
    calc logins
      _ ≤ s.attempts * (s.retries + 1) + (s.retries + 1) * (s.attempts * (s.retries + 1)) :=
        few_logins
      _ = (s.retries + 2) * s.attempts * (s.retries + 1) := by ring
  refine ⟨_, _, sent, own, logins, rfl, record, outlay, by omega, logins_bound, ?_⟩
  rw [outlay.length]
  omega

end CloudSession.OpenStack.Service
