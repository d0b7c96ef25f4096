import CloudSession.Proofs.Http.Refusal

/-! # Rejected logins

A login that is rejected is the end of the act that sent it: nothing is sent behind it, and the act
ends on a fault that tells of it. Acts that stop so are acts that halt, where all is clear as long
as no login was rejected.
-/

namespace CloudSession

open Act

/-- A rejection that is told in full: the body is at hand and can be taken as text, and closing the
response fails at most on input or output. -/
structure Response.Rejects (r : Response) : Prop where
  status : r.status = 401
  whole : ∃ bytes, r.body = .loaded bytes
  mild : r.ReadsMildly
  gentle : ∀ plan, r.closeFails = some plan → plan.kind.isIo

theorem Response.Rejects.refuses {r : Response} (rejects : r.Rejects) :
    r.Refuses .plain :=
  ⟨.inl rejects.status, rejects.whole, .inr rejects.mild, rejects.gentle⟩

/-- What is said of a rejected request: the credential is not authorized, and the reason names the
request and quotes the response. -/
def Response.rejection (r : Response) (request : Request) : FaultHead :=
  .ofProblem .authorization [("reason", .text (ErrorStyle.reason request r.status
    ((r.text.1.toOption.filter (!·.isEmpty)).map Text.strip)))]

variable {σ α β : Type} [Wired σ] {logins : Request → Prop}

namespace Wire

/-- The request of a number was a login, and it was rejected. -/
def Rejected (wire : Wire) (logins : Request → Prop) (n : Nat) : Prop :=
  ∃ request r, wire.Answers n request r ∧ logins request ∧ r.Rejects

def Unrejected (wire : Wire) (logins : Request → Prop) : Prop := ∀ n, ¬ wire.Rejected logins n

variable {s t : σ} {n : Nat}

theorem Rejected.of_quiet (rejected : Rejected (Wired.wire.read s) logins n) (quiet : Quiet s t) :
    Rejected (Wired.wire.read t) logins n :=
  Refused.of_quiet rejected quiet

theorem Unrejected.of_quiet (unrejected : Unrejected (Wired.wire.read s) logins)
    (quiet : Quiet s t) : Unrejected (Wired.wire.read t) logins :=
  fun n rejected => unrejected n (rejected.of_quiet quiet.symm)

end Wire

/-- A fault tells of the rejection of the request of a number. -/
def Blames (n : Nat) (i : FaultId) (w : World σ) : Prop :=
  ∃ request r fault, (Wired.wire.read w.own).Answers n request r ∧
    w.log.get? i = some fault ∧ fault.toFaultHead = r.rejection request

theorem Blames.of_quiet {n : Nat} {i : FaultId} {w w' : World σ} (blames : Blames n i w)
    (quiet : Wire.Quiet w.own w'.own) (log : w'.log.get? i = w.log.get? i) : Blames n i w' := by
  obtain ⟨request, r, fault, answers, told⟩ := blames
  rw [← log] at told
  exact ⟨request, r, fault, answers.of_quiet quiet, told⟩

/-- A fault that tells of a rejection is one of authorization. -/
theorem Blames.kind? {n : Nat} {i : FaultId} {w : World σ} (blames : Blames n i w) :
    w.log.kind? i = some (.problem .authorization) := by
  obtain ⟨request, r, fault, _, known, told⟩ := blames
  rw [FaultLog.kind?, known, Option.map_some, told]
  rfl

/-! ## Acts that stop at a rejected login -/

namespace Act

variable {Q : Nat → FaultId → World σ → Prop} {act : Act σ α} {w : World σ}

/-- What was played stopped at each login that was rejected: that one was sent last, and play ended
on a fault of which `Q` holds. -/
def Stopped (logins : Request → Prop) (Q : Nat → FaultId → World σ → Prop)
    (played : Except FaultId α × World σ) : Prop :=
  ∀ n, (Wired.wire.read played.2.own).Rejected logins n →
    n + 1 = (Wired.wire.read played.2.own).sent.length ∧ ∃ i, played.1 = .error i ∧ Q n i played.2

/-- As long as no login was rejected, an act stops at the first one that is. -/
def Heeds (logins : Request → Prop) (Q : Nat → FaultId → World σ → Prop) (act : Act σ α) : Prop :=
  ∀ w, (Wired.wire.read w.own).Unrejected logins → Stopped logins Q (act.play w)

/-- A fault on which play ended that stopped at each login that was rejected. -/
def Stops (logins : Request → Prop) (Q : Nat → FaultId → World σ → Prop) (i : FaultId)
    (w : World σ) : Prop :=
  ∀ n, (Wired.wire.read w.own).Rejected logins n →
    n + 1 = (Wired.wire.read w.own).sent.length ∧ Q n i w

theorem Stopped.of_unrejected {played : Except FaultId α × World σ}
    (unrejected : (Wired.wire.read played.2.own).Unrejected logins) : Stopped logins Q played :=
  fun n rejected => absurd rejected (unrejected n)

theorem Stops.stopped {i : FaultId} (stops : Stops logins Q i w) :
    Stopped logins Q ((.error i, w) : Except FaultId α × World σ) := by
  intro n rejected
  obtain ⟨last, told⟩ := stops n rejected
  exact ⟨last, i, rfl, told⟩

theorem Halted.stopped {rest : σ → Prop} {played : Except FaultId α × World σ}
    (halted : Halted (Wire.Unrefused logins Response.Rejects rest) (Stops logins Q) played) :
    Stopped logins Q played := by
  rcases played with ⟨outcome, w⟩
  cases outcome with
  | ok a => exact .of_unrejected halted.1
  | error i =>
    rcases halted with clear | stops
    · exact .of_unrejected clear.1
    · exact stops.stopped

/-- Play that stopped at each rejected login met none, or ended over it. -/
theorem Stopped.halted {rest : σ → Prop} {played : Except FaultId α × World σ}
    (stopped : Stopped logins Q played) (kept : rest played.2.own) :
    Halted (Wire.Unrefused logins Response.Rejects rest) (Stops logins Q) played := by
  rcases played with ⟨outcome, w⟩
  cases outcome with
  | ok a =>
    refine ⟨fun n rejected => ?_, kept⟩
    obtain ⟨_, i, ended, _⟩ := stopped n rejected
    cases ended
  | error i =>
    refine .inr fun n rejected => ?_
    obtain ⟨last, j, ended, told⟩ := stopped n rejected
    cases ended
    exact ⟨last, told⟩

theorem heeds_iff_halts : Heeds logins Q act ↔
    Halts (Wire.Unrefused logins Response.Rejects fun _ => True) (Stops logins Q) act := by
  constructor
  · intro heeds w clear
    exact (heeds w clear.1).halted trivial
  · intro halts w unrejected
    exact (halts w ⟨unrejected, trivial⟩).stopped

theorem Heeds.of_quiet (quiet : Keeps Wire.Quiet act) : Heeds logins Q act :=
  fun w unrejected => .of_unrejected (unrejected.of_quiet (quiet w))

theorem Heeds.pure (a : α) : Heeds logins Q (pure a : Act σ α) := .of_quiet (.pure a)

theorem Heeds.demand (value : Option α) (kind : FaultKind) :
    Heeds logins Q (Act.demand value kind : Act σ α) :=
  .of_quiet (.demand value kind)

theorem Heeds.bind {next : α → Act σ β} (first : Heeds logins Q act)
    (second : ∀ a, Heeds logins Q (next a)) : Heeds logins Q (act >>= next) :=
  heeds_iff_halts.mpr ((heeds_iff_halts.mp first).bind fun a => heeds_iff_halts.mp (second a))

/-- What is done behind an attempt does not hide how the attempt stopped, where it ends as the
attempt did and sends nothing. -/
theorem Heeds.settling {last : Except FaultId α → Act σ α} (heeds : Heeds logins Q act)
    (settles : ∀ outcome w, ∃ w', (last outcome).play w = (outcome, w') ∧
      Wire.Quiet w.own w'.own ∧ ∀ n i, Q n i w → Q n i w') :
    Heeds logins Q (attempt act >>= last) := by
  apply heeds_iff_halts.mpr
  apply (heeds_iff_halts.mp heeds).settling
  intro outcome w
  obtain ⟨w', ended, quiet, carried⟩ := settles outcome w
  refine ⟨w', ended, fun clear => clear.of_quiet quiet fun _ => trivial,
    fun i stops n rejected => ?_⟩
  obtain ⟨last, told⟩ := stops n (rejected.of_quiet quiet.symm)
  obtain ⟨sent, -⟩ := Prod.mk.inj quiet
  exact ⟨by rw [last, sent], carried n i told⟩

end Act

/-! ## Attempts that send a login -/

namespace Client

variable {c : Client σ} {Q : Nat → FaultId → World σ → Prop} {asked : Request}

/-- A client that recognizes a request as a login, and has no filters that could send another. -/
structure Recognizes (c : Client σ) (asked : Request) : Prop where
  unfiltered : c.filters = []
  errors : c.errors = some .plain
  retry : ∃ renewal invalidate server,
    c.retry = some (.delegating (.renew renewal invalidate) server) ∧
    renewal.isLogin? asked = some true ∧ Keeps Wire.Quiet invalidate ∧ server.Keeps Wire.Quiet

section

variable (recognizes : c.Recognizes asked)

include recognizes

theorem Recognizes.filter_eq : c.filter asked = pure asked := by
  rw [Client.filter_eq, recognizes.unfiltered, List.foldlM_nil]

theorem Recognizes.quiet : ∀ handler, c.retry = some handler → handler.Keeps Wire.Quiet := by
  obtain ⟨_, _, _, retry, _, forgets, others⟩ := recognizes.retry
  rw [retry]
  rintro handler ⟨⟩
  exact ⟨forgets, others⟩

theorem Recognizes.play_judge {w : World σ} {response : ResponseId} {r : Response} {n : Nat}
    (holds : Wire.Holds w response r) (rejects : r.Rejects)
    (answers : (Wired.wire.read w.own).Answers n asked r) (failures : Int) :
    ∃ i w', (c.judge ⟨asked, asked, failures⟩ response).play w = (.error i, w') ∧
      Wire.Quiet w.own w'.own ∧ Blames n i w' := by
  obtain ⟨renewal, _, _, retry, login, _, _⟩ := recognizes.retry
  let command : Command := ⟨asked, asked, failures⟩
  have recognized : renewal.isLogin? command.current = some true := login
  obtain ⟨i, told, after, ended, known, tells⟩ :=
    play_judge_of_refused retry recognizes.errors recognized holds rejects.refuses
  have quiet := keeps_judge Wire.lenient_quiet recognizes.quiet command response w
  rw [ended] at quiet
  exact ⟨i, after, ended, quiet, asked, r, told, answers.of_quiet quiet, known, tells⟩

/-- A login that is rejected at once is sent once, and its fault ends the request. -/
theorem Recognizes.play_execute {w : World σ} {r : Response}
    (reply : ((Wired.wire.read w.own).server (Wired.wire.read w.own).sent.length).outcome = .ok r)
    (rejects : r.Rejects) (timeout : Value) :
    ∃ i w', (c.execute asked timeout).play w = (.error i, w') ∧
      (Wired.wire.read w'.own).sent =
        (Wired.wire.read w.own).sent ++ [⟨asked, c.waiting timeout, c.verify⟩] ∧
      Blames (Wired.wire.read w.own).sent.length i w' := by
  cases played : (Wire.send ⟨asked, c.waiting timeout, c.verify⟩ : Act σ ResponseId).play w with
  | mk outcome between =>
    cases outcome with
    | error i =>
      rw [Wire.play_send_of_ok reply] at played
      cases played
    | ok response =>
      obtain ⟨r', reply', holds⟩ := Wire.Holds.of_send played
      obtain rfl := Except.ok.inj (reply.symm.trans reply')
      obtain ⟨i, after, ended, quiet, blames⟩ := recognizes.play_judge holds rejects
        (Wire.answers_of_send played reply) 0
      have tripped : (c.trip asked (c.waiting timeout) 0).play w = (.error i, after) := by
        rw [Client.trip_eq, recognizes.filter_eq, pure_bind,
          play_bind_of_ok (play_attempt_of played)]
        exact ended
      refine ⟨i, after, ?_, ?_, blames⟩
      · rw [Comes.first.play_execute]
        exact play_rest_of_error tripped
      · rw [(Prod.mk.inj quiet).1, Wire.sent_of_send played]

end

/-- What it takes of a client to heed the rejection of the logins it sends when it is asked for a
request. -/
structure Heeds (logins : Request → Prop) (Q : Nat → FaultId → World σ → Prop) (c : Client σ)
    (asked : Request) : Prop where
  filter : Act.Heeds logins Q (c.filter asked)
  retry : ∀ handler, c.retry = some handler → handler.Keeps Wire.Quiet
  /-- A login of its own that is rejected is judged to be over. -/
  judge : ∀ w current w', (c.filter asked).play w = (.ok current, w') → logins current →
    ∀ n failures response r w, Wire.Holds w response r → r.Rejects →
      (Wired.wire.read w.own).Answers n current r →
      ∃ i w', (c.judge ⟨asked, current, failures⟩ response).play w = (.error i, w') ∧ Q n i w'

theorem Recognizes.heeds (recognizes : c.Recognizes asked) : c.Heeds logins Blames asked := by
  refine ⟨recognizes.filter_eq ▸ .pure asked, recognizes.quiet, ?_⟩
  intro w current w' filtered _ n failures response r between holds rejects answers
  rw [recognizes.filter_eq] at filtered
  cases filtered
  obtain ⟨i, after, ended, _, blames⟩ := recognizes.play_judge holds rejects answers failures
  exact ⟨i, after, ended, blames⟩

/-- A client that heeds rejections halts at the latest over one. -/
theorem Heeds.halts (heeds : c.Heeds logins Q asked) :
    c.Halts logins Response.Rejects (fun _ => True) (Stops logins Q) asked where
  sendable := ⟨fun _ _ => id, fun _ _ _ => id⟩
  filter := heeds_iff_halts.mp heeds.filter
  retry handler here := (heeds.retry handler here).mono fun _ _ quiet clear =>
    clear.of_quiet quiet fun _ => trivial
  judge := by
    intro w current w' filtered login clear timeout response r between failures played reply rejects
      holds
    obtain ⟨i, after, ended, told⟩ := heeds.judge w current w' filtered login _ failures response r
      between holds rejects (Wire.answers_of_send played reply)
    refine ⟨i, after, ended, fun n rejected => ?_⟩
    have quiet := keeps_judge Wire.lenient_quiet heeds.retry ⟨asked, current, failures⟩ response
      between
    rw [ended] at quiet
    obtain ⟨sent, -⟩ := Prod.mk.inj quiet
    rcases Wire.refused_of_send played (Wire.Refused.of_quiet rejected quiet.symm) with
      before | ⟨rfl, -⟩
    · exact absurd before (clear.1 n)
    · refine ⟨?_, told⟩
      rw [sent, Wire.sent_of_send played, List.length_append, List.length_singleton]

theorem Heeds.execute (heeds : c.Heeds logins Q asked) (timeout : Value) :
    Act.Heeds logins Q (c.execute asked timeout) :=
  heeds_iff_halts.mpr (heeds.halts.execute timeout)

end Client

end CloudSession
