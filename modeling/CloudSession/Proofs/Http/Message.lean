import CloudSession.Http.ErrorStyle
import CloudSession.Proofs.Http.Reading

/-! # What a failed response says

A message is taken from a header or from the body, and a body can often be taken only once. Whoever
asks again is told the same all the same: what was read is kept, and what could not be read still
cannot.
-/

namespace CloudSession

open Act

namespace Response

/-- What a response says to a reader of its body, and before that of its header. -/
def said (r : Response) : ErrorStyle → Option String
  | .plain => (r.text.1.toOption.filter (!·.isEmpty)).map Text.strip
  | .vcloud =>
    match (r.header? ErrorStyle.messageHeader).filter (!·.isEmpty) with
    | some s => some s
    | none => (r.text.1.toOption.filter (!·.isEmpty)).map Text.strip

/-- What a response says can be asked for: it stands in the header, or the body can be taken or
fails the way bodies do. -/
def Speaks (r : Response) (style : ErrorStyle) : Prop :=
  (style = .vcloud ∧ ∃ s, r.header? ErrorStyle.messageHeader = some s ∧ s ≠ "") ∨ r.ReadsMildly

theorem said_of_header {r : Response} {s : String}
    (header : r.header? ErrorStyle.messageHeader = some s) (told : s ≠ "") :
    r.said .vcloud = some s := by
  simp [said, header, Option.filter, told]

/-- A text that was taken once is the same when it is taken again, and so is a failure. -/
theorem text_again (r : Response) : r.text.2.text.1 = r.text.1 := by
  cases here : r.body with
  | loaded bytes => rw [text_of_loaded here, text_of_loaded here]
  | pending chunks =>
    cases breaks : r.breaks with
    | none => simp only [text, here, breaks, textOf, decodeAs]
    | some plan => simp only [text, here, breaks]
  | dropped => simp only [text, here, textOf, List.isEmpty_nil, if_true]
  | consumed => simp only [text, here]

/-- So whoever asks for the message again is told the same. -/
theorem said_again (r : Response) (style : ErrorStyle) : r.text.2.said style = r.said style := by
  obtain ⟨body, after⟩ := r.exists_text_snd
  have header : r.text.2.header? ErrorStyle.messageHeader =
      r.header? ErrorStyle.messageHeader := by
    rw [after]
    rfl
  cases style <;> simp only [said, r.text_again, header]

end Response

variable {σ α : Type} [Wired σ] {w : World σ} {i : ResponseId} {r : Response}

namespace ErrorStyle

/-- What a provider says is taken from its response, and can be taken again. -/
theorem exists_play_message (holds : Wire.Holds w i r) (mild : r.ReadsMildly)
    (style : ErrorStyle) :
    ∃ body log, (style.message i).play w = (.ok (r.said style),
        { Wire.withResponse w i { r with body := body } with log := log }) ∧
      ({ r with body := body } : Response).said style = r.said style ∧
      ({ r with body := body } : Response).ReadsMildly := by
  obtain ⟨body, after⟩ := r.exists_text_snd
  obtain ⟨log, read⟩ := holds.exists_play_readText mild
  have again := r.said_again style
  have still : r.text.2.ReadsMildly := by
    intro failure failed
    rw [r.text_again] at failed
    exact mild failure failed
  rw [after] at read again still
  have told : (bodyMessage i).play w =
      (.ok ((r.text.1.toOption.filter (!·.isEmpty)).map Text.strip),
        { Wire.withResponse w i { r with body := body } with log := log }) := by
    rw [bodyMessage, play_bind_of_ok read, play_pure]
  cases style with
  | plain => exact ⟨body, log, told, again, still⟩
  | vcloud =>
    cases header : (r.header? messageHeader).filter (!·.isEmpty) with
    | some s =>
      have said : r.said .vcloud = some s := by simp only [Response.said, header]
      refine ⟨r.body, w.log, ?_, rfl, mild⟩
      have same : Wire.withResponse w i { r with body := r.body } = w := holds.withResponse_self
      rw [message, play_bind_of_ok holds.play_response, header, said, same]
      rfl
    | none =>
      have said : r.said .vcloud = (r.text.1.toOption.filter (!·.isEmpty)).map Text.strip := by
        simp only [Response.said, header]
      refine ⟨body, log, ?_, again, still⟩
      rw [message, play_bind_of_ok holds.play_response, header, said]
      exact told

/-- What is said of a resource that is busy or taken, with a status that leaves open what failed. -/
def TellsBusy (status : Int) (message : String) : Prop :=
  (status = 400 ∨ status = 500) ∧ ∃ saying ∈ busySayings, saying.toList <:+: message.toList

instance (status : Int) (message : String) : Decidable (TellsBusy status message) :=
  inferInstanceAs (Decidable (_ ∧ _))

theorem tellsBusy_iff {status : Int} {message : String} :
    ((status = 400 || status = 500) && isBusy message) = true ↔ TellsBusy status message := by
  simp only [TellsBusy, isBusy, Bool.and_eq_true, Bool.or_eq_true, decide_eq_true_eq,
    List.any_eq_true, Text.isWithin_iff]

/-- The fault that a status and a message stand for in a style. -/
def headIn (style : ErrorStyle) (command : Command) (response : ResponseId) (status : Int)
    (message : Option String) : FaultHead :=
  match style, message with
  | .vcloud, some m =>
    if TellsBusy status m then .ofProblem .illegalState [("reason", .text m)]
    else headOf command response status (some m)
  | _, message => headOf command response status message

variable (α) in
theorem exists_play_failByStatus (holds : Wire.Holds w i r) (mild : r.ReadsMildly)
    (style : ErrorStyle) (command : Command) :
    ∃ fault body log, (style.failByStatus command i : Act σ α).play w =
        (.error fault, { Wire.withResponse w i { r with body := body } with log := log }) ∧
      log.get? fault = some { headOf command i r.status (r.said style) with } := by
  obtain ⟨body, log, told, -, -⟩ := exists_play_message holds mild style
  have still : Wire.Holds { Wire.withResponse w i { r with body := body } with log := log } i
      { r with body := body } := (holds.withResponse _).of_same rfl
  rw [failByStatus, play_bind_of_ok told, play_bind_of_ok still.play_response]
  exact ⟨_, body, _, rfl, FaultLog.get?_add_self _ _⟩

variable (α) in
/-- A failed response always becomes a fault, the one that its status and its message stand for.
The message that decides which fault it is is the one that is told. -/
theorem exists_play_fail (holds : Wire.Holds w i r) (mild : r.ReadsMildly) (style : ErrorStyle)
    (command : Command) :
    ∃ fault body log, (style.fail command i : Act σ α).play w =
        (.error fault, { Wire.withResponse w i { r with body := body } with log := log }) ∧
      log.get? fault = some { headIn style command i r.status (r.said style) with } := by
  cases style with
  | plain => exact exists_play_failByStatus α holds mild .plain command
  | vcloud =>
    obtain ⟨body, log, told, again, mildly⟩ := exists_play_message holds mild .vcloud
    have still : Wire.Holds { Wire.withResponse w i { r with body := body } with log := log } i
        { r with body := body } := (holds.withResponse _).of_same rfl
    obtain ⟨fault, body', log', ended, known⟩ :=
      exists_play_failByStatus α still mildly .vcloud command
    rw [Wire.withResponse_again] at ended
    rw [again] at known
    rw [fail, play_bind_of_ok told, play_bind_of_ok still.play_response]
    cases said : r.said .vcloud with
    | none =>
      rw [said] at known
      exact ⟨fault, body', log', ended, known⟩
    | some m =>
      rw [said] at known
      by_cases busy : TellsBusy r.status m
      · simp only [tellsBusy_iff.mpr busy, if_true]
        refine ⟨_, body, _, rfl, ?_⟩
        rw [headIn, if_pos busy]
        exact FaultLog.get?_add_self _ _
      · simp only [mt tellsBusy_iff.mp busy]
        refine ⟨fault, body', log', ended, ?_⟩
        rw [headIn, if_neg busy]
        exact known

theorem play_message_of_header {s : String} (holds : Wire.Holds w i r)
    (header : r.header? messageHeader = some s) (told : s ≠ "") :
    (message .vcloud i).play w = (.ok (some s), w) := by
  have kept : (some s).filter (!·.isEmpty) = some s := by simp [Option.filter, told]
  rw [message, play_bind_of_ok holds.play_response, header, kept]
  rfl

variable (α) in
/-- A header that says what failed is enough: the body is not asked for, however it may fail. -/
theorem exists_play_fail_of_header {s : String} (holds : Wire.Holds w i r)
    (header : r.header? messageHeader = some s) (told : s ≠ "") (command : Command) :
    ∃ fault w', (fail .vcloud command i : Act σ α).play w = (.error fault, w') ∧
      w'.log.get? fault = some { headIn .vcloud command i r.status (some s) with } := by
  have said := play_message_of_header holds header told
  rw [fail, play_bind_of_ok said, play_bind_of_ok holds.play_response]
  by_cases busy : TellsBusy r.status s
  · simp only [tellsBusy_iff.mpr busy, if_true]
    rw [headIn, if_pos busy]
    exact ⟨_, _, rfl, FaultLog.get?_add_self _ _⟩
  · simp only [mt tellsBusy_iff.mp busy, Bool.false_eq_true, if_false]
    rw [headIn, if_neg busy, failByStatus, play_bind_of_ok said,
      play_bind_of_ok holds.play_response]
    exact ⟨_, _, rfl, FaultLog.get?_add_self _ _⟩

variable (α) in
theorem exists_play_fail_of_speaks (holds : Wire.Holds w i r) (style : ErrorStyle)
    (speaks : r.Speaks style) (command : Command) :
    ∃ fault w', (style.fail command i : Act σ α).play w = (.error fault, w') ∧
      w'.log.get? fault = some { headIn style command i r.status (r.said style) with } := by
  rcases speaks with ⟨rfl, s, header, told⟩ | mild
  · rw [Response.said_of_header header told]
    exact exists_play_fail_of_header α holds header told command
  · obtain ⟨fault, body, log, ended, known⟩ := exists_play_fail α holds mild style command
    exact ⟨fault, _, ended, known⟩

end ErrorStyle

end CloudSession
