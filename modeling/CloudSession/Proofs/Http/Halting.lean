import CloudSession.Proofs.Http.Client

/-! # Acts that halt

As long as all is clear an act leaves it so, or it ends on a fault that spells doom. That holds over
acts in a row as soon as it holds over each. Among the things that transport does, only a send can
be what the clear ends with, so it is enough to look at how that one attempt is judged.
-/

namespace CloudSession

open Act

variable {σ α β : Type} {clear : σ → Prop} {doom doom' : FaultId → World σ → Prop}

namespace Act

variable {act : Act σ α}

/-- All is clear behind what was played, or it ended on a fault that spells doom. -/
def Halted (clear : σ → Prop) (doom : FaultId → World σ → Prop) :
    Except FaultId α × World σ → Prop
  | (.ok _, w) => clear w.own
  | (.error i, w) => clear w.own ∨ doom i w

def Halts (clear : σ → Prop) (doom : FaultId → World σ → Prop) (act : Act σ α) : Prop :=
  ∀ w, clear w.own → Halted clear doom (act.play w)

theorem Halted.of_clear {played : Except FaultId α × World σ} (still : clear played.2.own) :
    Halted clear doom played := by
  rcases played with ⟨outcome, w⟩
  cases outcome with
  | ok a => exact still
  | error i => exact .inl still

theorem Halted.mono {played : Except FaultId α × World σ} (halted : Halted clear doom played)
    (worse : ∀ i w, doom i w → doom' i w) : Halted clear doom' played := by
  rcases played with ⟨outcome, w⟩
  cases outcome with
  | ok a => exact halted
  | error i => exact halted.imp_right (worse i w)

theorem Halted.bind {next : α → Act σ β} {w : World σ} (first : Halted clear doom (act.play w))
    (second : ∀ a w', act.play w = (.ok a, w') → clear w'.own →
      Halted clear doom ((next a).play w')) : Halted clear doom ((act >>= next).play w) := by
  cases played : act.play w with
  | mk outcome w' =>
    rw [played] at first
    cases outcome with
    | ok a =>
      rw [play_bind_of_ok played]
      exact second a w' played first
    | error i =>
      rw [play_bind_of_error played]
      exact first

theorem Halts.of_keeps (keeps : Keeps (Retains clear) act) : Halts clear doom act :=
  fun w start => .of_clear (keeps w start)

theorem Halts.pure (a : α) : Halts clear doom (pure a : Act σ α) := .of_keeps (.pure a)

theorem Halts.mono (halts : Halts clear doom act) (worse : ∀ i w, doom i w → doom' i w) :
    Halts clear doom' act :=
  fun w start => (halts w start).mono worse

theorem Halts.bind {next : α → Act σ β} (first : Halts clear doom act)
    (second : ∀ a, Halts clear doom (next a)) : Halts clear doom (act >>= next) :=
  fun w start => (first w start).bind fun a w' _ => second a w'

/-- What is done behind an attempt does not hide how it ended, where it leaves alone what is clear
and what spells doom. -/
theorem Halts.settling {last : Except FaultId α → Act σ α} (halts : Halts clear doom act)
    (settles : ∀ outcome w, ∃ w', (last outcome).play w = (outcome, w') ∧
      (clear w.own → clear w'.own) ∧ ∀ i, doom i w → doom' i w') :
    Halts clear doom' (attempt act >>= last) := by
  intro w start
  have halted := halts w start
  rw [play_bind_of_ok (play_attempt act w)]
  obtain ⟨w', ended, still, carried⟩ := settles (act.play w).1 (act.play w).2
  rw [ended]
  cases played : act.play w with
  | mk outcome between =>
    rw [played] at halted still carried
    cases outcome with
    | ok a => exact still halted
    | error i => exact halted.imp still (carried i)

end Act

variable [Wired σ]

namespace Wire

/-- The request of a number, and the response it is answered with. -/
structure Answers (wire : Wire) (n : Nat) (request : Request) (r : Response) : Prop where
  sent : wire.sent[n]?.map (·.request) = some request
  reply : (wire.server n).outcome = .ok r

/-- From one state to another nothing is sent, and the server stays. -/
abbrev Quiet : σ → σ → Prop := Alike fun s => ((Wired.wire.read s).sent, (Wired.wire.read s).server)

theorem lenient_quiet : Lenient (Quiet : σ → σ → Prop) := by
  intro s responses
  simp only [Alike, Slot.read_write]

section

variable {s t : σ} {n : Nat} {request : Request} {r : Response}

theorem Answers.of_quiet (answers : Answers (Wired.wire.read s) n request r) (quiet : Quiet s t) :
    Answers (Wired.wire.read t) n request r := by
  obtain ⟨sent, server⟩ := Prod.mk.inj quiet
  exact ⟨sent ▸ answers.sent, server ▸ answers.reply⟩

end

section

variable {sent : Sent} {w w' : World σ} {outcome : Except FaultId ResponseId}

theorem server_of_send (played : (send sent).play w = (outcome, w')) :
    (Wired.wire.read w'.own).server = (Wired.wire.read w.own).server := by
  have sendable : Sendable (Alike fun s : σ => (Wired.wire.read s).server) := by
    refine ⟨fun s responses => ?_, fun s sent responses => ?_⟩ <;>
      simp only [Alike, Slot.read_write]
  have kept := keeps_send sendable sent w
  rwa [played] at kept

theorem sent_of_send (played : (send sent).play w = (outcome, w')) :
    (Wired.wire.read w'.own).sent = (Wired.wire.read w.own).sent ++ [sent] := by
  have record := sent_send sent w
  rwa [played] at record

theorem answers_of_send {r : Response} (played : (send sent).play w = (outcome, w'))
    (reply : ((Wired.wire.read w.own).server (Wired.wire.read w.own).sent.length).outcome = .ok r) :
    Answers (Wired.wire.read w'.own) (Wired.wire.read w.own).sent.length sent.request r := by
  constructor
  · rw [sent_of_send played]
    simp
  · rw [server_of_send played, reply]

end

/-! ## Logins that are refused -/

/-- The request of a number was a login, and its response refused it. -/
def Refused (wire : Wire) (logins : Request → Prop) (refuses : Response → Prop) (n : Nat) : Prop :=
  ∃ request r, wire.Answers n request r ∧ logins request ∧ refuses r

/-- No login was refused so far, and the rest of the state is as it should be. -/
def Unrefused (logins : Request → Prop) (refuses : Response → Prop) (rest : σ → Prop) (s : σ) :
    Prop :=
  (∀ n, ¬ (Wired.wire.read s).Refused logins refuses n) ∧ rest s

variable {logins : Request → Prop} {refuses : Response → Prop} {rest : σ → Prop}

theorem Refused.of_quiet {s t : σ} {n : Nat}
    (refused : Refused (Wired.wire.read s) logins refuses n) (quiet : Quiet s t) :
    Refused (Wired.wire.read t) logins refuses n := by
  obtain ⟨request, r, answers, known⟩ := refused
  exact ⟨request, r, answers.of_quiet quiet, known⟩

/-- What a send adds to the logins that were refused is at most the one it sends. -/
theorem refused_of_send {sent : Sent} {w w' : World σ} {outcome : Except FaultId ResponseId}
    (played : (send sent).play w = (outcome, w')) {n : Nat}
    (refused : Refused (Wired.wire.read w'.own) logins refuses n) :
    Refused (Wired.wire.read w.own) logins refuses n ∨
      n = (Wired.wire.read w.own).sent.length ∧ logins sent.request ∧
        ∃ r, ((Wired.wire.read w.own).server n).outcome = .ok r ∧ refuses r := by
  obtain ⟨request, r, ⟨known, reply⟩, login, refusal⟩ := refused
  rw [sent_of_send played] at known
  rw [server_of_send played] at reply
  by_cases before : n < (Wired.wire.read w.own).sent.length
  · rw [List.getElem?_append_left before] at known
    exact .inl ⟨request, r, ⟨known, reply⟩, login, refusal⟩
  · rw [List.getElem?_append_right (by omega), List.getElem?_singleton] at known
    split at known
    · cases known
      exact .inr ⟨by omega, login, r, reply, refusal⟩
    · cases known

theorem Unrefused.of_quiet {s t : σ} (unrefused : Unrefused logins refuses rest s)
    (quiet : Quiet s t) (kept : rest s → rest t) : Unrefused logins refuses rest t :=
  ⟨fun n refused => unrefused.1 n (refused.of_quiet quiet.symm), kept unrefused.2⟩

theorem lenient_unrefused (lenient : Lenient (Retains rest)) :
    Lenient (Retains (Unrefused logins refuses rest) : σ → σ → Prop) :=
  fun s responses unrefused => unrefused.of_quiet (lenient_quiet s responses) (lenient s responses)

end Wire

/-! ## Attempts of a client -/

namespace Client

variable {c : Client σ} {asked : Request}

/-- What it takes of a client to halt when it is asked for a request, at the latest over a login of
its own that is refused. -/
structure Halts (logins : Request → Prop) (refuses : Response → Prop) (rest : σ → Prop)
    (doom : FaultId → World σ → Prop) (c : Client σ) (asked : Request) : Prop where
  sendable : Wire.Sendable (Retains rest)
  filter : Act.Halts (Wire.Unrefused logins refuses rest) doom (c.filter asked)
  retry : ∀ handler, c.retry = some handler →
    handler.Keeps (Retains (Wire.Unrefused logins refuses rest))
  judge : ∀ {w current w'}, (c.filter asked).play w = (.ok current, w') → logins current →
    Wire.Unrefused logins refuses rest w'.own → ∀ timeout response r between failures,
      (Wire.send ⟨current, timeout, c.verify⟩).play w' = (.ok response, between) →
      ((Wired.wire.read w'.own).server (Wired.wire.read w'.own).sent.length).outcome = .ok r →
      refuses r → Wire.Holds between response r →
      ∃ i after, (c.judge ⟨asked, current, failures⟩ response).play between = (.error i, after) ∧
        doom i after

variable {logins : Request → Prop} {refuses : Response → Prop} {rest : σ → Prop}
variable (halts : c.Halts logins refuses rest doom asked)

include halts

theorem Halts.lenient : Wire.Lenient (Retains (Wire.Unrefused logins refuses rest)) :=
  Wire.lenient_unrefused halts.sendable.lenient

/-- Behind a send all is clear, unless it sent a login that is refused. -/
theorem Halts.clear_of_send {sent : Sent} {w w' : World σ} {outcome : Except FaultId ResponseId}
    (played : (Wire.send sent).play w = (outcome, w'))
    (start : Wire.Unrefused logins refuses rest w.own)
    (fair : logins sent.request → ∀ r, ((Wired.wire.read w.own).server
      (Wired.wire.read w.own).sent.length).outcome = .ok r → ¬ refuses r) :
    Wire.Unrefused logins refuses rest w'.own := by
  constructor
  · intro n refused
    rcases Wire.refused_of_send played refused with before | ⟨rfl, login, r, reply, refusal⟩
    · exact start.1 n before
    · exact fair login r reply refusal
  · have kept := Wire.keeps_send halts.sendable sent w
    rw [played] at kept
    exact kept start.2

theorem Halts.trip (timeout : Value) (failures : Nat) :
    Act.Halts (Wire.Unrefused logins refuses rest) doom (c.trip asked timeout failures) := by
  intro w start
  rw [trip_eq]
  apply (halts.filter w start).bind
  intro current w' filtered clear
  cases played : (Wire.send ⟨current, timeout, c.verify⟩ : Act σ ResponseId).play w' with
  | mk outcome between =>
    rw [play_bind_of_ok (play_attempt_of played)]
    cases outcome with
    | error i =>
      apply Halted.of_clear
      have unanswered := halts.clear_of_send played clear (by
        intro _ r reply _
        rw [Wire.play_send_of_ok reply] at played
        cases played)
      dsimp only
      rw [play_bind_of_ok (play_is _ _ _)]
      split <;> exact unanswered
    | ok response =>
      obtain ⟨r, reply, holds⟩ := Wire.Holds.of_send played
      by_cases turned_down : logins current ∧ refuses r
      · obtain ⟨i, after, ended, told⟩ := halts.judge filtered turned_down.1 clear timeout
          response r between failures played reply turned_down.2 holds
        dsimp only
        rw [ended]
        exact .inr told
      · have answered := halts.clear_of_send played clear (by
          intro login r' reply' refusal
          obtain rfl := Except.ok.inj (reply.symm.trans reply')
          exact turned_down ⟨login, refusal⟩)
        exact .of_clear (keeps_judge halts.lenient halts.retry _ response between answered)

theorem Halts.tripThen (timeout : Value) (failures : Nat) {next : Due → Act σ ResponseId}
    (behind : ∀ due, Act.Halts (Wire.Unrefused logins refuses rest) doom (next due)) :
    Act.Halts (Wire.Unrefused logins refuses rest) doom
      (c.tripThen asked timeout failures next) := by
  apply (halts.trip timeout failures).bind
  intro outcome
  cases outcome with
  | ok response => exact .pure response
  | error due => exact behind due

theorem Halts.trips (timeout : Value) (left failures : Nat) :
    Act.Halts (Wire.Unrefused logins refuses rest) doom (c.trips asked timeout left failures) := by
  induction left generalizing failures with
  | zero =>
    apply halts.tripThen
    exact fun due => .of_keeps (keeps_giveUp halts.lenient due)
  | succ left ih => exact halts.tripThen timeout failures fun _ => ih (failures + 1)

theorem Halts.execute (timeout : Value) :
    Act.Halts (Wire.Unrefused logins refuses rest) doom (c.execute asked timeout) := by
  rw [Client.execute_eq]
  split
  · exact halts.trips _ _ 0
  · apply halts.tripThen
    intro due
    apply Act.Halts.of_keeps
    cases due with
    | cut i => exact .bind (.of_own fun _ => rfl) fun j => .failWhile i j
    | accepted command response => exact .fail _

end Client

end CloudSession
