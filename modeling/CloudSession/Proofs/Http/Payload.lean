import CloudSession.Http.Payload
import Mathlib.Tactic.Common

/-! # What a bounded reader sees

A reader with a limit sees the first bytes of the body, however they are cut into chunks, as long
as the line does not break before them.
-/

namespace CloudSession

theorem flatten_slices (fuel : Nat) (bytes : List UInt8) (enough : bytes.length ≤ fuel) :
    (slices fuel bytes).flatten = bytes := by
  induction fuel generalizing bytes with
  | zero =>
    obtain rfl := List.length_eq_zero_iff.mp (Nat.le_zero.mp enough)
    rfl
  | succ fuel ih =>
    cases bytes with
    | nil => rfl
    | cons b rest =>
      have shorter : ((b :: rest).drop chunkSize).length ≤ fuel := by
        simp only [List.length_drop, List.length_cons, chunkSize] at enough ⊢
        omega
      simp only [slices, List.flatten_cons, ih _ shorter, List.take_append_drop]

/-- Chunks are taken until there are as many bytes as asked for, and at least one. -/
theorem ended_takeChunks (limit : Int) (size : Nat) (taken chunks : List (List UInt8))
    (short : (size : Int) < max 1 limit) :
    (takeChunks limit size taken chunks).ended = true ↔
      ((size + chunks.flatten.length : Nat) : Int) < max 1 limit := by
  fun_induction takeChunks limit size taken chunks with
  | case1 size taken => simpa using short
  | case2 size taken rest ih => simpa using ih short
  | case3 size taken chunk rest some_bytes enough =>
    have positive : 0 < chunk.length := List.length_pos_iff.mpr some_bytes
    simp only [List.flatten_cons, List.length_append, Bool.false_eq_true, false_iff]
    omega
  | case4 size taken chunk rest some_bytes more ih =>
    rw [ih (by omega), List.flatten_cons, List.length_append, Nat.add_assoc]

/-- What is taken starts with the bytes asked for. -/
theorem take_takeChunks (limit size : Nat) (taken chunks : List (List UInt8))
    (counted : size = taken.reverse.flatten.length) :
    (takeChunks limit size taken chunks).bytes.take limit =
      (taken.reverse.flatten ++ chunks.flatten).take limit := by
  fun_induction takeChunks (limit : Int) size taken chunks with
  | case1 size taken => simp
  | case2 size taken rest ih => simpa using ih counted
  | case3 size taken chunk rest some_bytes enough =>
    have reached : limit ≤ (taken.reverse.flatten ++ chunk).length := by
      rw [List.length_append, ← counted]
      exact Int.ofNat_le.mp enough
    simp only [List.reverse_cons, List.flatten_append, List.flatten_cons, List.flatten_nil,
      List.append_nil]
    rw [← List.append_assoc, List.take_append_of_le_length reached]
  | case4 size taken chunk rest some_bytes more ih =>
    have counted_too : size + chunk.length = (chunk :: taken).reverse.flatten.length := by
      simp [counted]
    rw [ih counted_too]
    simp

namespace Response

variable {r : Response} {limit : Int} {bytes : List UInt8}

/-- The first bytes of a body; none when the body was read before, or when the line breaks before
there are that many of them. -/
def opening? (r : Response) (limit : Nat) : Option (List UInt8) :=
  match r.body with
  | .loaded bytes => some (bytes.take limit)
  | .pending chunks =>
    if r.breaks.isNone || max 1 limit ≤ chunks.flatten.length then
      some (chunks.flatten.take limit)
    else none
  | .dropped => some []
  | .consumed => none

/-- Reading bytes takes them from the body, and leaves the rest of the response as it is. -/
theorem exists_takeBytes_snd (r : Response) (limit : Int) :
    ∃ body, (r.takeBytes limit).2 = { r with body := body } := by
  unfold takeBytes
  split
  · exact ⟨r.body, rfl⟩
  · dsimp only
    split
    · split <;> exact ⟨_, rfl⟩
    · exact ⟨_, rfl⟩
  · exact ⟨_, rfl⟩
  · exact ⟨r.body, rfl⟩

theorem exists_takeUpTo_snd (r : Response) (setting : Value) :
    ∃ body, (r.takeUpTo setting).2 = { r with body := body } := by
  cases setting with
  | number n => cases n <;> exact r.exists_takeBytes_snd _
  | _ => exact r.exists_takeBytes_snd _

theorem exists_text_snd (r : Response) : ∃ body, r.text.2 = { r with body := body } := by
  unfold text
  split
  · exact ⟨r.body, rfl⟩
  · split <;> exact ⟨_, rfl⟩
  · exact ⟨_, rfl⟩
  · exact ⟨r.body, rfl⟩

/-- A reader sees the first bytes as far as they can be read. A limit below zero, which counts from
the end, is no promise of what is seen. -/
theorem takeBytes_of_opening (opening : r.opening? limit.toNat = some bytes) :
    ∃ seen body, r.takeBytes limit = (.ok seen, { r with body := body }) ∧
      (0 ≤ limit → seen = bytes) := by
  have cut : ∀ chunks, 0 ≤ limit → cutBytes limit (takeChunks limit 0 [] chunks).bytes =
      chunks.flatten.take limit.toNat := by
    intro chunks natural
    obtain ⟨n, rfl⟩ := Int.eq_ofNat_of_zero_le natural
    simpa [cutBytes] using take_takeChunks n 0 [] chunks rfl
  cases here : r.body with
  | loaded whole =>
    simp only [opening?, here, Option.some.injEq] at opening
    simp only [takeBytes, here]
    refine ⟨_, r.body, rfl, fun natural => ?_⟩
    rw [cut _ natural, flatten_slices _ _ (Nat.le_refl _), opening]
  | pending chunks =>
    simp only [opening?, here] at opening
    simp only [takeBytes, here]
    have ended := ended_takeChunks limit 0 [] chunks (by omega)
    rw [Nat.zero_add] at ended
    split at opening
    · rename_i readable
      obtain rfl := Option.some.inj opening
      split
      · rename_i finished
        have all := ended.mp finished
        split
        · rename_i plan breaks
          simp only [breaks, Option.isNone_some, Bool.false_or, decide_eq_true_eq] at readable
          omega
        · exact ⟨_, _, rfl, cut chunks⟩
      · exact ⟨_, _, rfl, cut chunks⟩
    · cases opening
  | dropped =>
    simp only [opening?, here, Option.some.injEq] at opening
    simp only [takeBytes, here]
    exact ⟨_, _, rfl, fun _ => opening⟩
  | consumed => simp only [opening?, here, reduceCtorEq] at opening

/-- A body that cannot be read as far as the limit fails: the line breaks, or the body was read
before. -/
theorem takeBytes_of_closed (closed : r.opening? limit.toNat = none) :
    ∃ failure body, r.takeBytes limit = (.error failure, { r with body := body }) ∧
      (failure = .consumed ∨ ∃ plan, r.breaks = some plan ∧ failure = .breaks plan) := by
  cases here : r.body with
  | loaded whole => simp only [opening?, here, reduceCtorEq] at closed
  | pending chunks =>
    simp only [opening?, here] at closed
    simp only [takeBytes, here]
    have ended := ended_takeChunks limit 0 [] chunks (by omega)
    rw [Nat.zero_add] at ended
    split at closed
    · cases closed
    · rename_i unreadable
      simp only [Bool.or_eq_true, decide_eq_true_eq, not_or, Option.isNone_iff_eq_none]
        at unreadable
      obtain ⟨broken, short⟩ := unreadable
      obtain ⟨plan, breaks⟩ := Option.ne_none_iff_exists'.mp broken
      have finished := ended.mpr (by omega)
      simp only [finished, if_true, breaks]
      exact ⟨_, _, rfl, .inr ⟨plan, rfl, rfl⟩⟩
  | dropped => simp only [opening?, here, reduceCtorEq] at closed
  | consumed =>
    simp only [takeBytes, here]
    exact ⟨.consumed, r.body, rfl, .inl rfl⟩

section

variable {setting : Value} (whole : setting.asNumber? = some (.whole limit))

include whole

/-- A limit from settings is a limit where it is a whole number. -/
theorem takeUpTo_of_whole : r.takeUpTo setting = r.takeBytes limit := by
  cases setting with
  | bool b =>
    cases b <;> cases whole <;> rfl
  | number n =>
    cases whole
    rfl
  | _ => cases whole

theorem takeUpTo_of_opening (opening : r.opening? limit.toNat = some bytes) :
    ∃ seen body, r.takeUpTo setting = (.ok seen, { r with body := body }) ∧
      (0 ≤ limit → seen = bytes) := by
  rw [takeUpTo_of_whole whole]
  exact takeBytes_of_opening opening

theorem takeUpTo_of_closed (closed : r.opening? limit.toNat = none) :
    ∃ failure body, r.takeUpTo setting = (.error failure, { r with body := body }) ∧
      (failure = .consumed ∨ ∃ plan, r.breaks = some plan ∧ failure = .breaks plan) := by
  rw [takeUpTo_of_whole whole]
  exact takeBytes_of_closed closed

end

end Response

end CloudSession
