import CloudSession.Http.Retry
import CloudSession.Proofs.Http.Reading

/-! # The end of a lease

What a retry handler does about a response that tells of the end of a lease: it forgets the
session once and accepts the response, whose release cannot undo that.
-/

namespace CloudSession

variable {σ : Type} [Wired σ] {w : World σ} {i : ResponseId} {r : Response}

/-- A response that tells of the end of a lease in the first bytes of its body. A body is readable
if the line brings these bytes, and the announced charset has a text for them. A limit below zero
asks for no bytes, in which only the empty marker stands; some may be read all the same. -/
structure Response.Lapsed (r : Response) (marker : String) (maxPayload : Int) : Prop where
  status : r.status = 401
  marked : ∃ bytes text, r.opening? maxPayload.toNat = some bytes ∧ r.decode bytes = .ok text ∧
    Text.isWithin marker text
  below : maxPayload < 0 → marker = "" ∧ r.Legible

/-- The text in which the marker stands is the one that is read, at the latest where none is asked
for. -/
theorem Response.Lapsed.exists_takeUpTo {r : Response} {marker : String} {maxPayload : Int}
    {setting : Value} (lapsed : r.Lapsed marker maxPayload)
    (whole : setting.asNumber? = some (.whole maxPayload)) :
    ∃ seen body text, r.takeUpTo setting = (.ok seen, { r with body := body }) ∧
      r.decode seen = .ok text ∧ Text.isWithin marker text := by
  obtain ⟨bytes, text, opening, decoded, within⟩ := lapsed.marked
  obtain ⟨seen, body, took, natural⟩ := takeUpTo_of_opening whole opening
  by_cases positive : 0 ≤ maxPayload
  · obtain rfl := natural positive
    exact ⟨seen, body, text, took, decoded, within⟩
  · obtain ⟨rfl, legible⟩ := lapsed.below (by omega)
    obtain ⟨text, decoded⟩ := legible seen
    exact ⟨seen, body, text, took, decoded, (Text.isWithin_iff _ _).mpr List.nil_infix⟩

namespace RetryHandler

variable {renewal : Renewal} {invalidate : Act σ Unit} {command : Command} {marker : String}
variable {maxPayload : Int} {forget : σ → σ}

/-- The session is forgotten behind the reading of the body. -/
theorem play_renewIfMarked (holds : Wire.Holds w i r) (lapsed : r.Lapsed marker maxPayload)
    (told : renewal.marker = .text marker)
    (whole : renewal.maxPayload.asNumber? = some (.whole maxPayload))
    (signed : renewal.isLogin? command.current = some false)
    (forgets : ∀ w, invalidate.play w = (.ok (), { w with own := forget w.own })) :
    ∃ body, (renewIfMarked renewal invalidate command i).play w =
      (.ok true, { w with own := forget (Wire.withResponse w i { r with body := body }).own }) := by
  obtain ⟨seen, body, text, took, decoded, within⟩ := lapsed.exists_takeUpTo whole
  refine ⟨body, ?_⟩
  have recognized : renewal.isMarked? (some text) = some true := by
    simp only [Renewal.isMarked?, told, within]
  have refused : ¬ r.status ≠ 401 := not_not_intro lapsed.status
  rw [renewIfMarked, Act.play_bind_of_ok holds.play_response, if_neg refused, signed,
    Act.play_bind_of_ok (Act.play_demand _ _ _), if_neg Bool.false_ne_true,
    Act.play_bind_of_ok (holds.play_readPayload took decoded), recognized,
    Act.play_bind_of_ok (Act.play_demand _ _ _), if_pos rfl, Act.play_bind_of_ok (forgets _)]
  rfl

/-- A response that tells of the end of a lease is accepted, whichever handler answers for the
statuses of the server. The session is forgotten, and nothing else is done but to the response. -/
theorem play_shouldRetry_of_lapsed (holds : Wire.Holds w i r) (lapsed : r.Lapsed marker maxPayload)
    (gentle : ∀ plan, r.closeFails = some plan → plan.kind.isIo)
    (told : renewal.marker = .text marker)
    (whole : renewal.maxPayload.asNumber? = some (.whole maxPayload))
    (signed : renewal.isLogin? command.current = some false)
    (forgets : ∀ w, invalidate.play w = (.ok (), { w with own := forget w.own }))
    (apart : ∀ s, Wired.wire.read (forget s) = (Wired.wire.read s : Wire))
    (server : RetryHandler σ) :
    ∃ first last log,
      (shouldRetry (.delegating (.renew renewal invalidate) server) command i).play w =
        (.ok true, { Wire.withResponse { w with own := forget (Wire.withResponse w i first).own } i
          last with log := log }) := by
  obtain ⟨body, renewed⟩ :=
    play_renewIfMarked holds lapsed told whole signed forgets
  have later : Wire.Holds
      { w with own := forget (Wire.withResponse w i { r with body := body }).own } i
      { r with body := body } :=
    (holds.withResponse _).of_same (apart _)
  obtain ⟨log, released, -⟩ := later.play_release gentle
  refine ⟨{ r with body := body }, ({ r with body := body } : Response).released, log, ?_⟩
  have own : (400 ≤ r.status && r.status < 500) = true := by
    rw [lapsed.status]
    rfl
  rw [shouldRetry, Act.play_bind_of_ok holds.play_response]
  simp only [own, if_true]
  rw [shouldRetry, Act.play_andFinally_of_ok renewed released]

end RetryHandler

end CloudSession
