import CloudSession.Proofs.Http.Decision

/-! # Bytes however they are cut

What a bounded reader is told depends on the bytes that came and on whether the line broke behind
them. It does not depend on how they were cut into chunks, and a line that breaks behind the bytes
that were asked for is as good as one that does not. Where the codec of the announced charset
refuses these bytes, the reader is told that, and no text.
-/

namespace CloudSession

open Act

namespace Response

/-- A response brings bytes, at once or in chunks, behind which the line may break. -/
inductive Brings (r : Response) : (bytes : List UInt8) → (broken : Bool) → Prop where
  | whole {bytes : List UInt8} : r.body = .loaded bytes → Brings r bytes false
  | chunks {chunks : List (List UInt8)} : r.body = .pending chunks →
    Brings r chunks.flatten r.breaks.isSome

/-- The first bytes as text; none where the line broke before as many of them came as were asked
for, or before any came. -/
def firstText (r : Response) (limit : Nat) (bytes : List UInt8) (broken : Bool) :
    Except ReadFailure (Option String) :=
  if broken = true ∧ bytes.length < max limit 1 then .ok none
  else (r.decode (bytes.take (min limit bytes.length))).map some

variable {r : Response} {bytes : List UInt8} {broken : Bool}

theorem Brings.opening?_eq (brings : r.Brings bytes broken) (limit : Nat) :
    r.opening? limit =
      if broken = true ∧ bytes.length < max limit 1 then none else some (bytes.take limit) := by
  cases brings with
  | whole loaded => simp [opening?, loaded]
  | @chunks chunks pending =>
    simp only [opening?, pending]
    cases r.breaks with
    | none => simp
    | some plan =>
      by_cases short : chunks.flatten.length < max limit 1
      · have unreadable : ¬ max 1 limit ≤ chunks.flatten.length := by omega
        simp only [Option.isNone_some, Option.isSome_some, Bool.false_or, decide_eq_true_eq,
          if_neg unreadable, true_and, if_pos short]
      · have readable : max 1 limit ≤ chunks.flatten.length := by omega
        simp only [Option.isNone_some, Option.isSome_some, Bool.false_or, decide_eq_true_eq,
          if_pos readable, true_and, if_neg short]

/-- The first text is that of the bytes a bounded reader sees. -/
theorem Brings.firstText_eq (brings : r.Brings bytes broken) (limit : Nat) :
    r.firstText limit bytes broken = r.openingText limit := by
  have opening := brings.opening?_eq limit
  rw [firstText]
  split at opening
  · rename_i early
    rw [if_pos early, openingText_of_none opening]
  · rename_i enough
    rw [if_neg enough, openingText_of_some opening, ← List.take_eq_take_min]

/-- A broken line is as good as a whole one once enough bytes came. -/
theorem firstText_of_enough {limit : Nat} (enough : max limit 1 ≤ bytes.length)
    (broken broken' : Bool) : r.firstText limit bytes broken = r.firstText limit bytes broken' := by
  have long : ¬ bytes.length < max limit 1 := Nat.not_lt.mpr enough
  simp only [firstText, long, and_false, if_false]

/-- Two responses in the same charset have the same first text, if one program reads them. -/
theorem firstText_congr {r' : Response} (charset : r'.charset = r.charset)
    (codecs : r'.codecs = r.codecs) (limit : Nat) :
    r'.firstText limit bytes broken = r.firstText limit bytes broken := by
  simp only [firstText, decode, decodeAs, charset, codecs]

end Response

variable {σ : Type} [Wired σ] {w : World σ} {i : ResponseId} {r : Response}
variable {bytes : List UInt8} {broken : Bool}

namespace Wire

/-- A reader is told the first text, and where enough bytes came nothing is met but them. -/
theorem Holds.exists_play_readPayload_of_brings (holds : Holds w i r)
    (brings : r.Brings bytes broken)
    (breaks : ∀ plan, r.breaks = some plan → plan.kind.isReadFailure) (limit : Nat) :
    ∃ result body log, (readPayload i (.int limit)).play w =
        (result, { Wire.withResponse w i { r with body := body } with log := log }) ∧
      Response.EndsAs log (r.firstText limit bytes broken) result ∧
      (max limit 1 ≤ bytes.length → ∀ text, result = .ok text → log = w.log) := by
  have whole : (Value.int limit).asNumber? = some (.whole limit) := rfl
  have natural : (0 : Int) ≤ limit := Int.natCast_nonneg limit
  have opening := brings.opening?_eq limit
  rw [brings.firstText_eq]
  by_cases enough : max limit 1 ≤ bytes.length
  · rw [if_neg fun early => absurd early.2 (Nat.not_lt.mpr enough)] at opening
    obtain ⟨seen, body, took, exactly⟩ := Response.takeUpTo_of_opening whole opening
    rw [Response.openingText_of_some opening]
    rw [← exactly natural]
    cases decoded : r.decode seen with
    | ok text =>
      exact ⟨_, body, w.log, holds.play_readPayload took decoded, rfl, fun _ _ _ => rfl⟩
    | error failure =>
      refine ⟨_, body, _, holds.play_readPayload_of_garbled took decoded,
        FaultLog.kind?_make _ _, ?_⟩
      rintro _ _ ⟨⟩
  · obtain ⟨_, result, body, log, played, ended, -, opened⟩ :=
      holds.exists_play_readPayload whole breaks
    obtain rfl := opened natural
    exact ⟨result, body, log, played, ended, fun more => absurd more enough⟩

/-- A bounded reader is told the text of the first bytes, unless the line broke before there were
enough of them, and then he is told nothing. So he is told the same of any other response that
brings the same bytes, however they are cut, and a fault behind enough of them makes no
difference: it is not even met. Where a codec refuses the first bytes, its fault is all there is. -/
theorem reads_however_cut (holds : Holds w i r) (brings : r.Brings bytes broken)
    (breaks : ∀ plan, r.breaks = some plan → plan.kind.isReadFailure) (limit : Nat) :
    (∃ result body log, (readPayload i (.int limit)).play w =
        (result, { Wire.withResponse w i { r with body := body } with log := log }) ∧
      Response.EndsAs log (r.firstText limit bytes broken) result ∧
      (max limit 1 ≤ bytes.length → ∀ text, result = .ok text → log = w.log)) ∧
    ∀ (v : World σ) j r' broken', Holds v j r' → r'.Brings bytes broken' →
      r'.charset = r.charset → r'.codecs = r.codecs →
      (∀ plan, r'.breaks = some plan → plan.kind.isReadFailure) →
      (broken' = broken ∨ max limit 1 ≤ bytes.length) →
        Response.EndsAs ((readPayload j (.int limit)).play v).2.log
          (r.firstText limit bytes broken) ((readPayload j (.int limit)).play v).1 := by
  refine ⟨holds.exists_play_readPayload_of_brings brings breaks limit, ?_⟩
  intro v j r' broken' holds' brings' charset codecs breaks' alike
  obtain ⟨result, body, log, played, ended, -⟩ :=
    holds'.exists_play_readPayload_of_brings brings' breaks' limit
  rw [Response.firstText_congr charset codecs] at ended
  rw [played]
  rcases alike with rfl | enough
  · exact ended
  · rwa [Response.firstText_of_enough enough broken broken']

/-- The letter é, cut through, behind a letter of one byte; then the line breaks. -/
def cutThrough : Response where
  body := .pending [[97, 195], [], [169]]
  breaks := some (.ofKind .io)
  charset := some "no-such-charset"

/-- The same bytes, cut elsewhere, on a line that does not break. -/
def cutElsewhere : Response where
  body := .pending [[97], [195, 169], []]
  charset := some "no-such-charset"

/-- Two bytes are the first letter and a start of the second one, wherever the chunks end. Of three
bytes the first reader is told as well, of four he is not. -/
theorem reads_however_cut_through :
    let told (r : Response) (limit : Nat) :=
      ((readPayload 0 (.int limit)).play (RetryHandler.offering r)).1
    cutThrough.Brings [97, 195, 169] true ∧ cutElsewhere.Brings [97, 195, 169] false ∧
      (∀ plan, cutThrough.breaks = some plan → plan.kind.isReadFailure) ∧
      told cutThrough 2 = .ok (some "a\uFFFD") ∧ told cutElsewhere 2 = .ok (some "a\uFFFD") ∧
      told cutThrough 3 = .ok (some "aé") ∧ told cutElsewhere 3 = .ok (some "aé") ∧
      told cutThrough 4 = .ok none := by
  intro told
  have holds (r : Response) : Holds (RetryHandler.offering r) 0 r := ⟨Nat.zero_lt_one, rfl⟩
  have pending : cutThrough.body = .pending [[97, 195], [], [169]] := rfl
  have pending' : cutElsewhere.body = .pending [[97], [195, 169], []] := rfl
  have brings : cutThrough.Brings [97, 195, 169] true := .chunks pending
  have brings' : cutElsewhere.Brings [97, 195, 169] false := .chunks pending'
  have breaks : ∀ plan, cutThrough.breaks = some plan → plan.kind.isReadFailure := by
    rintro _ ⟨⟩
    rfl
  have whole : ∀ plan, cutElsewhere.breaks = some plan → plan.kind.isReadFailure := by
    rintro _ ⟨⟩
  have first (limit : Nat) {text : Option String}
      (reading : cutThrough.firstText limit [97, 195, 169] true = .ok text) :
      told cutThrough limit = .ok text := by
    obtain ⟨result, body, log, played, ended, -⟩ :=
      (reads_however_cut (holds cutThrough) brings breaks limit).1
    rw [reading] at ended
    exact (congrArg Prod.fst played).trans (Response.eq_ok_of_endsAs ended)
  have second (limit : Nat) (enough : max limit 1 ≤ 3) {text : Option String}
      (reading : cutThrough.firstText limit [97, 195, 169] true = .ok text) :
      told cutElsewhere limit = .ok text := by
    have ended := (reads_however_cut (holds cutThrough) brings breaks limit).2 _ 0 _ _
      (holds cutElsewhere) brings' rfl rfl whole (.inr enough)
    rw [reading] at ended
    exact Response.eq_ok_of_endsAs ended
  exact ⟨brings, brings', breaks, first 2 rfl, second 2 (by decide) rfl, first 3 rfl,
    second 3 (by decide) rfl, first 4 rfl⟩

/-- Four bytes that are announced to be in the charset of host names. -/
def hostLike : Response where
  body := .loaded [111, 111, 112, 115]
  charset := some "idna"

/-- A reader is told nothing of bytes that the codec of their charset refuses, although nothing
broke: he ends on a fault. -/
theorem not_reads_however_cut_of_hostLike :
    let played := (readPayload 0 (.int 4)).play (RetryHandler.offering hostLike)
    hostLike.Brings [111, 111, 112, 115] false ∧
      (∃ i, played.1 = .error i ∧ played.2.log.kind? i = some .unicode) ∧
      ¬ ∃ text, played.1 = .ok text := by
  refine ⟨.whole rfl, ⟨1, rfl, rfl⟩, ?_⟩
  rintro ⟨text, ⟨⟩⟩

end Wire

end CloudSession
