import CloudSession.Proofs.Http.Decision
import CloudSession.Proofs.Number
import CloudSession.Service

/-! # Naps between attempts

A nap is twice as long as the one before it, up to the longest. As long as the doubling does not
leave the doubles there is always such a nap, and as long as it is a usual one it is taken. So
whoever is asked about a failed response has an answer, unless its body is refused as text.
-/

namespace CloudSession

open Act

namespace Nap

theorem exists_worth?_longest :
    ∃ most, (Number.real longest).worth? = some most ∧ most < ((2 ^ 53 : ℝ) : EReal) := by
  have finite : (Number.real longest).scaled = .finite false 4835703278458516 (-19) := by rfl
  obtain ⟨most, known⟩ : ∃ most, (Number.real longest).worth? = some most := by
    rw [Number.worth?, finite]
    exact ⟨_, rfl⟩
  have below : (Number.real longest).lt (.whole (2 ^ 53)) = true := by rfl
  have small := (Number.lt_iff_worth known (Number.worth?_whole _)).mp below
  exact ⟨most, known, by exact_mod_cast small⟩

/-- A nap of seconds from zero up to the longest nap is a usual one. -/
theorem isUsual_of_worth {x : Float} {r most : EReal} (known : (Number.real x).worth? = some r)
    (natural : 0 ≤ r) (longest : (Number.real longest).worth? = some most) (short : r ≤ most) :
    isUsual x = true := by
  rw [isUsual, Bool.and_eq_true, Number.le_iff_worth (Number.worth?_whole 0) known,
    Number.le_iff_worth known longest]
  exact ⟨by simpa using natural, short⟩

end Nap

namespace Backoff

variable {b : Backoff} {limit failures : Int} {first : Number} {start longest : EReal}

/-- The settings of a backoff, spelled out: the limit is a whole number, and the first and the
longest nap are numbers from zero on, with what they are worth. -/
structure Spells (b : Backoff) (limit : Int) (first : Number) (start longest : EReal) : Prop where
  limited : b.limit.asNumber? = some (.whole limit)
  starts : b.delayStart.asNumber? = some first
  worth : first.worth? = some start
  natural : 0 ≤ start
  bounded : ∃ n, b.maxDelay.asNumber? = some n ∧ n.worth? = some longest
  positive : 0 ≤ longest
  listed : ∃ statuses, b.statuses = .list statuses

/-- What a nap after some failures is worth: twice as much for each failure before, up to the
longest. -/
noncomputable def doubled (start longest : EReal) (failures : Int) : EReal :=
  min (start * ((((2 : Nat) : ℝ) ^ (failures - 1) : ℝ) : EReal)) longest

theorem doubled_eq (start longest : EReal) (failures : Int) : doubled start longest failures =
    min (start * ((2 ^ (failures - 1) : ℝ) : EReal)) longest := by
  rw [doubled, Nat.cast_ofNat]

theorem Spells.doubled_nonneg (spells : b.Spells limit first start longest) (failures : Int) :
    0 ≤ doubled start longest failures :=
  le_min (mul_nonneg spells.natural (EReal.coe_nonneg.mpr (by positivity))) spells.positive

/-- The nap after some failures is there where a whole number is doubled, or it is doubled within
the doubles. -/
theorem Spells.exists_delay (spells : b.Spells limit first start longest) (failed : 1 ≤ failures)
    (fits : (∃ n, first = .whole n) ∨ failures ≤ 1024)
    (below : doubled start longest failures < ((2 ^ 53 : ℝ) : EReal)) :
    ∃ seconds, b.delay failures = .ok seconds ∧
      seconds.worth? = some (doubled start longest failures) := by
  obtain ⟨most, told, worth⟩ := spells.bounded
  obtain ⟨product, r, scaled, known, exactly⟩ := Number.exists_timesPowerOfTwo spells.worth
    spells.natural (by omega : 0 ≤ failures - 1) (fits.imp_right fun few => by omega)
  refine ⟨product.min most, ?_, ?_⟩
  · simp only [delay, spells.starts, scaled, told]
    rfl
  · rw [Number.worth?_min known worth]
    rcases exactly with rfl | ⟨rfl, beyond⟩
    · rw [doubled_eq]
    · -- A product beyond the doubles is infinite, so no shorter than the longest nap either way.
      have shorter : longest ≤ start * ((2 ^ (failures - 1) : ℝ) : EReal) := by
        by_contra longer
        rw [doubled_eq, min_eq_left (not_le.mp longer).le] at below
        exact absurd ((Number.lt_edge_of_small below).trans_le Number.edge_le) (not_lt.mpr beyond)
      rw [doubled_eq, min_eq_right le_top, min_eq_right shorter]

/-- A nap of a backoff: seconds from zero up to the longest. -/
def Naps (b : Backoff) (x : Float) : Prop :=
  ∃ (most : Number) (r longest : EReal), (Number.real x).worth? = some r ∧
    b.maxDelay.asNumber? = some most ∧ most.worth? = some longest ∧ 0 ≤ r ∧ r ≤ longest

/-- The nap after some failures is no longer than the longest one that anybody takes. -/
def Short (start longest : EReal) (failures : Int) : Prop :=
  ∃ most, (Number.real Nap.longest).worth? = some most ∧ doubled start longest failures ≤ most

/-- No nap of a backoff is too long where its longest one is not. -/
theorem Spells.short (spells : b.Spells limit first start longest) {n : Number}
    (told : b.maxDelay.asNumber? = some n) (usual : n.le (.real Nap.longest) = true)
    (failures : Int) : Short start longest failures := by
  obtain ⟨_, own, worth⟩ := spells.bounded
  obtain rfl := Option.some.inj (told.symm.trans own)
  obtain ⟨most, known, -⟩ := Nap.exists_worth?_longest
  exact ⟨most, known, (min_le_right _ _).trans ((Number.le_iff_worth worth known).mp usual)⟩

/-- The nap after some failures is there, and it is one that is taken. -/
theorem Spells.exists_nap (spells : b.Spells limit first start longest) (failed : 1 ≤ failures)
    (fits : (∃ n, first = .whole n) ∨ failures ≤ 1024) (short : Short start longest failures) :
    ∃ seconds x, b.delay failures = .ok seconds ∧ seconds.toFloat? = some x ∧
      Nap.isUsual x = true ∧ (Number.real x).worth? = some (doubled start longest failures) := by
  obtain ⟨own, known, below⟩ := short
  obtain ⟨_, same, small⟩ := Nap.exists_worth?_longest
  obtain rfl := Option.some.inj (known.symm.trans same)
  obtain ⟨seconds, delay, worth⟩ := spells.exists_delay failed fits (below.trans_lt small)
  have natural := spells.doubled_nonneg failures
  obtain ⟨x, near, still⟩ := Number.toFloat?_of_small worth natural (below.trans_lt small)
  exact ⟨seconds, x, delay, near, Nap.isUsual_of_worth still natural known below, still⟩

theorem Spells.naps (spells : b.Spells limit first start longest) {x : Float}
    (worth : (Number.real x).worth? = some (doubled start longest failures)) : b.Naps x := by
  obtain ⟨most, told, known⟩ := spells.bounded
  exact ⟨most, _, longest, worth, told, known, spells.doubled_nonneg failures, min_le_right _ _⟩

end Backoff

/-- What a supplier does to forget is not on the wire, where its cell is not. -/
theorem Supplier.forgets {σ α : Type} [Wired σ] (s : Supplier σ α)
    (apart : ∀ c t, Wired.wire.read (s.cell.write c t) = (Wired.wire.read t : Wire)) :
    ∃ forget : σ → σ, (∀ w, s.invalidate.play w = (.ok (), { w with own := forget w.own })) ∧
      ∀ t, Wired.wire.read (forget t) = (Wired.wire.read t : Wire) :=
  ⟨fun t => s.cell.write (s.cell.read t).invalidate t, fun _ => rfl, fun t => apart _ t⟩

/-- Nor is what the caches of a vCloud credential do. -/
theorem VCloud.Caches.forgets {σ : Type} [Wired σ] (c : VCloud.Caches σ)
    (sessions : ∀ cell t, Wired.wire.read (c.sessions.cell.write cell t) =
      (Wired.wire.read t : Wire))
    (orgMaps : ∀ cell t, Wired.wire.read (c.orgMaps.cell.write cell t) =
      (Wired.wire.read t : Wire)) :
    ∃ forget : σ → σ, (∀ w, c.invalidate.play w = (.ok (), { w with own := forget w.own })) ∧
      ∀ t, Wired.wire.read (forget t) = (Wired.wire.read t : Wire) := by
  obtain ⟨first, played, apart⟩ := c.sessions.forgets sessions
  obtain ⟨second, played', apart'⟩ := c.orgMaps.forgets orgMaps
  refine ⟨second ∘ first, fun w => ?_, fun t => (apart' _).trans (apart t)⟩
  rw [VCloud.Caches.invalidate, play_bind_of_ok (played w), played']
  rfl

namespace RetryHandler

variable {σ : Type} [Wired σ] {w : World σ} {i : ResponseId} {r : Response} {command : Command}

section

variable {b : Backoff} {limit : Int} {first : Number} {start longest : EReal}
variable (spells : b.Spells limit first start longest) (holds : Wire.Holds w i r)

include spells holds

/-- A transient failure is napped over as long as there are attempts left. -/
theorem play_napIfTransient_of_due (command : Command)
    (transient : b.isTransient? r.status = some true) (left : command.failures + 1 ≤ limit)
    {seconds : Number} {x : Float} (delay : b.delay (command.failures + 1) = .ok seconds)
    (near : seconds.toFloat? = some x) (usual : Nap.isUsual x = true) :
    (napIfTransient b command i).play w =
      (.ok true, { w with naps := w.naps ++ [x], clock := w.clock + x }) := by
  have within : (Number.whole limit).lt (.whole (command.failures + 1)) = false := by
    rw [Number.whole_lt_whole, decide_eq_false_iff_not]
    omega
  rw [napIfTransient, play_bind_of_ok holds.play_response, transient,
    play_bind_of_ok (play_demand _ _ _), if_neg (by decide), spells.limited,
    play_bind_of_ok (play_demand _ _ _), within, if_neg Bool.false_ne_true, delay]
  simp only [nap, near]
  rw [play_bind_of_ok (play_nap_of_taken (w.sleeper.takes x usual)), play_pure]

/-- Nobody naps over another failure, or where no attempt is left. -/
theorem play_napIfTransient_of_idle (command : Command)
    (idle : b.isTransient? r.status = some true → limit < command.failures + 1) :
    (napIfTransient b command i).play w = (.ok false, w) := by
  obtain ⟨statuses, listed⟩ := spells.listed
  have judged : b.isTransient? r.status = some (statuses.any (· == .int r.status)) := by
    rw [Backoff.isTransient?, listed]
  rw [judged] at idle
  rw [napIfTransient, play_bind_of_ok holds.play_response, judged,
    play_bind_of_ok (play_demand _ _ _)]
  cases transient : statuses.any (· == .int r.status) with
  | false => rfl
  | true =>
    have beyond : (Number.whole limit).lt (.whole (command.failures + 1)) = true := by
      rw [Number.whole_lt_whole, decide_eq_true_eq]
      exact idle (congrArg some transient)
    rw [if_neg (by decide), spells.limited, play_bind_of_ok (play_demand _ _ _), beyond,
      if_pos rfl, play_pure]

end

/-- A tree of handlers whose settings are of the right kinds. Where a backoff has attempts left, a
whole number is doubled or there were too few failures for the doubling to leave the doubles, and
the nap that is due is not too long for anybody to take. -/
def Sound (failures : Int) : RetryHandler σ → Prop
  | .decline => True
  | .renew renewal invalidate => ∃ marker user key token limit forget,
    Renews renewal invalidate marker user key token limit forget
  | .backoff b => ∃ limit first start longest, b.Spells limit first start longest ∧
    (failures + 1 ≤ limit → ((∃ n, first = .whole n) ∨ failures < 1024) ∧
      Backoff.Short start longest (failures + 1))
  | .delegating client server => client.Sound failures ∧ server.Sound failures

/-- The backoffs of a tree of handlers. -/
def backoffs : RetryHandler σ → List Backoff
  | .decline | .renew .. => []
  | .backoff b => [b]
  | .delegating client server => client.backoffs ++ server.backoffs

/-- There is an answer, after at most one nap of a backoff among some. -/
def Answers (bs : List Backoff) (w : World σ) (played : Except FaultId Bool × World σ) : Prop :=
  ∃ answer after, played = (.ok answer, after) ∧
    (after.naps = w.naps ∨ ∃ b ∈ bs, ∃ x, b.Naps x ∧ after.naps = w.naps ++ [x])

omit [Wired σ] in
theorem Answers.mono {bs more : List Backoff} {played : Except FaultId Bool × World σ}
    (answers : Answers bs w played) (among : ∀ b ∈ bs, b ∈ more) : Answers more w played := by
  obtain ⟨answer, after, ended, naps⟩ := answers
  refine ⟨answer, after, ended, naps.imp_right ?_⟩
  rintro ⟨b, member, x, napped⟩
  exact ⟨b, among b member, x, napped⟩

/-- A tree of handlers always has an answer about a response whose body is legible, and whose
reading and release fail at most the way lines do. It takes no nap but one from zero up to the
longest of a backoff. -/
theorem answers_always {handler : RetryHandler σ} (sound : handler.Sound command.failures)
    (natural : 0 ≤ command.failures) (named : command.current.headers.Named)
    (holds : Wire.Holds w i r) (legible : r.Legible)
    (breaks : ∀ plan, r.breaks = some plan → plan.kind.isReadFailure)
    (gentle : ∀ plan, r.closeFails = some plan → plan.kind.isIo) :
    Answers handler.backoffs w ((handler.shouldRetry command i).play w) := by
  have declines {bs : List Backoff} :
      Answers bs w ((Wire.release i >>= fun _ => pure false : Act σ Bool).play w) := by
    obtain ⟨log, released, -⟩ := holds.play_release gentle
    exact ⟨false, _, play_bind_of_ok released, .inl rfl⟩
  induction handler with
  | decline => exact declines
  | renew renewal invalidate =>
    obtain ⟨marker, user, key, token, limit, forget, renews⟩ := sound
    obtain ⟨reading, result, body, last, log, played, ended, garbled, -⟩ :=
      renews.exists_play_shouldRetry holds named breaks gentle
    cases reading with
    | ok answer =>
      obtain rfl := Response.eq_ok_of_endsAs ended
      exact ⟨answer, _, played, .inl rfl⟩
    | error failure =>
      obtain ⟨seen, refused⟩ := garbled failure rfl
      obtain ⟨text, decoded⟩ := legible seen
      rw [decoded] at refused
      cases refused
  | backoff b =>
    obtain ⟨limit, first, start, longest, spells, fits⟩ := sound
    rw [shouldRetry]
    by_cases due : b.isTransient? r.status = some true ∧ command.failures + 1 ≤ limit
    · obtain ⟨transient, left⟩ := due
      obtain ⟨doubles, short⟩ := fits left
      obtain ⟨seconds, x, delay, near, usual, worth⟩ := spells.exists_nap
        (by omega : 1 ≤ command.failures + 1) (doubles.imp_right fun _ => by omega) short
      have napped :=
        play_napIfTransient_of_due spells holds command transient left delay near usual
      have later : Wire.Holds { w with naps := w.naps ++ [x], clock := w.clock + x } i r :=
        holds.of_same rfl
      obtain ⟨log, released, -⟩ := later.play_release gentle
      exact ⟨true, _, play_andFinally_of_ok napped released,
        .inr ⟨b, List.mem_singleton_self b, x, spells.naps worth, rfl⟩⟩
    · have idle := play_napIfTransient_of_idle spells holds command
        fun transient => not_le.mp fun left => due ⟨transient, left⟩
      obtain ⟨log, released, -⟩ := holds.play_release gentle
      exact ⟨false, _, play_andFinally_of_ok idle released, .inl rfl⟩
  | delegating client server ofClient ofServer =>
    rw [shouldRetry, play_bind_of_ok holds.play_response]
    dsimp only
    split
    · exact (ofClient sound.1).mono fun b member => List.mem_append_left _ member
    · split
      · exact (ofServer sound.2).mono fun b member => List.mem_append_right _ member
      · exact declines

/-- A service that naps for a second at first, and may do so three times. -/
def napping : ServiceOptions where
  provider := .greenHouseData
  endpoint := .text "http://h"
  identity := .text "u"
  credential := .text "k"
  apiVersion := .text "1.0"
  loginEndpoint := .null
  verify := .on
  maxRetries := .int 3
  retryDelayStart := .int 1
  timeout := .int 60
  sessionInterval := .int 60
  loginTimeout := .int 10
  versionsTimeout := .int 10
  fetchAttempts := 1
  leaseMarker := .text "renew"
  userHeader := .text "X-Auth-User"
  keyHeader := .text "X-Auth-Key"
  tokenHeader := .text "X-Auth-Token"
  maxPayload := .int 16

def keeper : VCloud.Service := { options := napping }

def doubling : Backoff := { limit := .int 9, delayStart := .int 1, maxDelay := .int 30 }

/-- Handlers that renew leases over either kind of cache, and naps of whole seconds. -/
def patient : RetryHandler Store :=
  .delegating
    (.delegating (.renew {} keeper.sessions.invalidate) (.renew {} keeper.caches.invalidate))
    (.backoff doubling)

theorem spells_doubling :
    doubling.Spells 9 (.whole 1) (((1 : Int) : ℝ) : EReal) (((30 : Int) : ℝ) : EReal) where
  limited := rfl
  starts := rfl
  worth := Number.worth?_whole 1
  natural := EReal.coe_nonneg.mpr (by norm_num)
  bounded := ⟨.whole 30, rfl, Number.worth?_whole 30⟩
  positive := EReal.coe_nonneg.mpr (by norm_num)
  listed := ⟨_, rfl⟩

/-- After three failures a server that fails is given eight seconds, although the release of its
response fails. -/
theorem answers_always_after_failures :
    let command : Command := { Command.of { endpoint := .text "http://h" } with failures := 3 }
    let failed : Response := { status := 503, closeFails := some (.ofKind .io) }
    let played := (patient.shouldRetry command 0).play (offering failed)
    patient.Sound command.failures ∧ 0 ≤ command.failures ∧ command.current.headers.Named ∧
      Wire.Holds (offering failed) 0 failed ∧ failed.Legible ∧
      (∀ plan, failed.breaks = some plan → plan.kind.isReadFailure) ∧
      (∀ plan, failed.closeFails = some plan → plan.kind.isIo) ∧
      Answers patient.backoffs (offering failed) played ∧
      played.2.naps.map Float.toBits = [(8 : Float).toBits] := by
  intro command failed played
  have renews {invalidate : Act Store Unit} (forgets : ∃ forget : Store → Store,
      (∀ w, invalidate.play w = (.ok (), { w with own := forget w.own })) ∧
        ∀ t, Wired.wire.read (forget t) = (Wired.wire.read t : Wire)) :
      (renew {} invalidate).Sound command.failures := by
    obtain ⟨forget, played, apart⟩ := forgets
    exact ⟨_, _, _, _, _, forget, rfl, rfl, rfl, rfl, rfl, played, apart⟩
  have sound : patient.Sound command.failures :=
    ⟨⟨renews (keeper.sessions.forgets fun _ _ => rfl),
        renews (keeper.caches.forgets (fun _ _ => rfl) fun _ _ => rfl)⟩,
      9, .whole 1, _, _, spells_doubling,
      fun _ => ⟨.inl ⟨1, rfl⟩, spells_doubling.short rfl (by rfl) _⟩⟩
  have named : command.current.headers.Named := fun _ member => absurd member List.not_mem_nil
  have holds : Wire.Holds (offering failed) 0 failed := ⟨Nat.zero_lt_one, rfl⟩
  have legible : failed.Legible := fun bytes => ⟨_, rfl⟩
  have breaks : ∀ plan, failed.breaks = some plan → plan.kind.isReadFailure := by
    rintro _ ⟨⟩
  have gentle : ∀ plan, failed.closeFails = some plan → plan.kind.isIo := by
    rintro _ ⟨⟩
    rfl
  have natural : (0 : Int) ≤ command.failures := by decide
  exact ⟨sound, natural, named, holds, legible, breaks, gentle,
    answers_always sound natural named holds legible breaks gentle, by decide +kernel⟩

/-- A backoff that starts on a double does not answer once the doubling leaves the doubles, however
short the longest nap is. -/
theorem not_answers_always_beyond_doubles :
    let b : Backoff := { limit := .int 9999, delayStart := .float 0.05, maxDelay := .float 30 }
    let command : Command := { Command.of { endpoint := .text "http://h" } with failures := 1024 }
    let played := ((RetryHandler.backoff b : RetryHandler Store).shouldRetry command 0).play
      (offering { status := 500 })
    (Number.real 0.05).lt (.whole 0) = false ∧ (Number.real 30).lt (.whole 0) = false ∧
      (∃ i, played.1 = .error i ∧ played.2.log.kind? i = some .overflow) ∧
      ¬ ∃ answer, played.1 = .ok answer := by
  refine ⟨rfl, rfl, ⟨0, rfl, rfl⟩, ?_⟩
  rintro ⟨answer, ⟨⟩⟩

end RetryHandler

end CloudSession
