import CloudSession.Proofs.Http.Translation

/-! # Messages and what they quote

A message that names fields is filled in as a whole or stands as it is, and what it is filled with
is not read again. So whatever a provider sends, and whatever is asked for, is found in the text of
the fault as it was.
-/

namespace CloudSession

open Act Text.Template

/-! ## Filling a message -/

namespace Problem

/-- The pieces that a problem is worded in: those of its message, or its own if that is empty. -/
def inUse (p : Problem) : List Piece → List Piece
  | [] => p.pieces
  | pieces => pieces

variable {p : Problem} {pieces : List Piece} {details : Fields Value}

theorem text_pieces (p : Problem) : Piece.text p.pieces = p.template := by
  rw [Piece.text, ← p.template_eq, String.ofList_toList]

theorem chosen_text (p : Problem) (pieces : List Piece) :
    p.chosen (.text (Piece.text pieces)) = .text (Piece.text (p.inUse pieces)) := by
  cases pieces with
  | nil => exact congrArg Value.text p.text_pieces.symm
  | cons piece rest =>
    have worded : (Value.text (Piece.text (piece :: rest))).holds = true := by
      simp [Value.holds, Piece.text, piece.written_ne_nil]
    rw [chosen, if_pos worded, inUse]
    exact List.cons_ne_nil piece rest

theorem inUse_plain (plain : ∀ piece ∈ pieces, piece.Plain) :
    ∀ piece ∈ p.inUse pieces, piece.Plain := by
  cases pieces with
  | nil => exact p.pieces_plain
  | cons piece rest => exact plain

/-- A message is filled in piece by piece. -/
theorem strictText_eq (plain : ∀ piece ∈ pieces, piece.Plain) (p : Problem)
    (details : Fields Value) : p.strictText (.text (Piece.text pieces)) details =
      (fillPieces details (p.inUse pieces)).map String.ofList := by
  rw [strictText, chosen_text]
  exact fill_pieces String.toList_ofList (inUse_plain plain) details

theorem strictText_of_given (plain : ∀ piece ∈ pieces, piece.Plain)
    (given : Given details (p.inUse pieces)) : p.strictText (.text (Piece.text pieces)) details =
      .ok (String.ofList ((p.inUse pieces).flatMap (Piece.replaced details))) := by
  rw [strictText_eq plain, fillPieces_of_given given]
  rfl

theorem strictText_of_not_given (plain : ∀ piece ∈ pieces, piece.Plain)
    (missing : ¬ Given details (p.inUse pieces)) :
    p.strictText (.text (Piece.text pieces)) details = .error .missing := by
  rw [strictText_eq plain, fillPieces_of_not_given missing]
  rfl

theorem text_of_given (plain : ∀ piece ∈ pieces, piece.Plain)
    (given : Given details (p.inUse pieces)) : p.text (.text (Piece.text pieces)) details =
      String.ofList ((p.inUse pieces).flatMap (Piece.replaced details)) := by
  rw [text, strictText_of_given plain given]

theorem text_of_not_given (plain : ∀ piece ∈ pieces, piece.Plain)
    (missing : ¬ Given details (p.inUse pieces)) :
    p.text (.text (Piece.text pieces)) details = Piece.text (p.inUse pieces) := by
  rw [text, strictText_of_not_given plain missing, chosen_text]
  rfl

end Problem

/-! ## What a fault quotes -/

/-- The text of a fault holds a text as it is. -/
def FaultHead.Quotes (head : FaultHead) (s : String) : Prop :=
  ∃ text, head.message = some text ∧ s.toList <:+: text.toList

theorem infix_behind (front s : String) : s.toList <:+: (front ++ s).toList := by
  rw [String.toList_append]
  exact (List.suffix_append _ _).isInfix

theorem FaultHead.quotes_of_message {head : FaultHead} {front s back : String}
    (message : head.message = some (front ++ s ++ back)) : head.Quotes s := by
  refine ⟨_, message, front.toList, back.toList, ?_⟩
  rw [String.toList_append, String.toList_append]

theorem FaultHead.Quotes.within {head : FaultHead} {s part : String} (quotes : head.Quotes s)
    (within : part.toList <:+: s.toList) : head.Quotes part := by
  obtain ⟨text, message, holds⟩ := quotes
  exact ⟨text, message, within.trans holds⟩

namespace Response

/-- What a provider sends to tell of a failure, in a header or in the body. The white space at the
ends of a body does not count. -/
inductive Sends (r : Response) : ErrorStyle → String → Prop where
  | header {s : String} : r.header? ErrorStyle.messageHeader = some s → s ≠ "" → Sends r .vcloud s
  | body {style : ErrorStyle} {s : String} :
    (style = .vcloud → ∀ told, r.header? ErrorStyle.messageHeader = some told → told = "") →
    r.text.1 = .ok s → Sends r style (Text.strip s)

variable {r : Response} {style : ErrorStyle} {s : String}

/-- Without a header a response says what its body does. -/
theorem said_of_silent
    (silent : ∀ told, r.header? ErrorStyle.messageHeader = some told → told = "") :
    r.said .vcloud = r.said .plain := by
  have unheaded : (r.header? ErrorStyle.messageHeader).filter (!·.isEmpty) = none := by
    cases header : r.header? ErrorStyle.messageHeader with
    | none => rfl
    | some told => simp [Option.filter, silent told header]
  simp only [said, unheaded]

/-- What a provider sends is what the response is taken to say. -/
theorem Sends.said (sends : r.Sends style s) : (r.said style).getD "" = s := by
  cases sends with
  | header header told => rw [said_of_header header told, Option.getD_some]
  | @body style s silent text =>
    have from_body : (r.said .plain).getD "" = Text.strip s := by
      show ((r.text.1.toOption.filter (!·.isEmpty)).map Text.strip).getD "" = Text.strip s
      by_cases empty : s = ""
      · subst empty
        rw [text]
        rfl
      · simp [text, Except.toOption, Option.filter, empty]
    cases style with
    | plain => exact from_body
    | vcloud => rw [said_of_silent (silent rfl), from_body]

theorem exists_text_of_said (said : r.said .plain = some s) :
    ∃ body, r.text.1 = .ok body ∧ Text.strip body = s := by
  obtain ⟨body, kept, stripped⟩ := Option.map_eq_some_iff.mp said
  cases text : r.text.1 with
  | error failure =>
    rw [text] at kept
    cases kept
  | ok whole =>
    obtain rfl : whole = body := by
      simpa [text, Except.toOption] using (Option.filter_eq_some_iff.mp kept).1
    exact ⟨whole, rfl, stripped⟩

/-- And what it is taken to say is what the provider sends. -/
theorem sends_of_said (said : r.said style = some s) : r.Sends style s := by
  cases style with
  | plain =>
    obtain ⟨body, text, rfl⟩ := exists_text_of_said said
    exact .body (fun other => nomatch other) text
  | vcloud =>
    by_cases headed : ∃ told, r.header? ErrorStyle.messageHeader = some told ∧ told ≠ ""
    · obtain ⟨told, header, filled⟩ := headed
      rw [said_of_header header filled] at said
      cases said
      exact .header header filled
    · have silent : ∀ told, r.header? ErrorStyle.messageHeader = some told → told = "" := by
        intro told header
        by_contra filled
        exact headed ⟨told, header, filled⟩
      rw [said_of_silent silent] at said
      obtain ⟨body, text, rfl⟩ := exists_text_of_said said
      exact .body (fun _ => silent) text

theorem Sends.speaks (sends : r.Sends style s) : r.Speaks style := by
  cases sends with
  | header header told => exact .inl ⟨rfl, _, header, told⟩
  | body silent text =>
    refine .inr fun failure failed => ?_
    rw [text] at failed
    cases failed

end Response

namespace ErrorStyle

variable {command : Command} {response : ResponseId} {status : Int} {said : Option String}
  {m : String} {style : ErrorStyle}

theorem infix_told (told : said = some m) (otherwise : String) :
    m.toList <:+: ((said.filter (!·.isEmpty)).getD otherwise).toList := by
  subst told
  by_cases empty : m = ""
  · subst empty
    exact List.nil_infix
  · simp [Option.filter, empty]

/-- Whatever the status, the text of a fault names the request and then says what was said. -/
theorem exists_wording (command : Command) (response : ResponseId) (status : Int)
    (said : Option String) : ∃ front middle told,
      (headOf command response status said).message =
        some (front ++ command.current.title ++ middle ++ told) ∧
      ∀ m, said = some m → m.toList <:+: told.toList := by
  have reports := reports_headOf command response status said
  by_cases refused : status = 401 ∨ status = 403
  · refine ⟨"Not authorized: ", " -> ", _, ?_,
      fun m told => infix_told told (Number.intText status)⟩
    rw [reports.rejected refused, reason]
    simp only [String.append_assoc]
  by_cases absent : status = 404
  · refine ⟨"resource not found for request ", ": ", said.getD "None", ?_, ?_⟩
    · rw [reports.absent absent]
    · rintro m rfl
      exact List.infix_refl _
  by_cases conflict : status = 409 ∨ status = 412
  · refine ⟨"Illegal state: ", " -> ", _, ?_,
      fun m told => infix_told told (Number.intText status)⟩
    rw [reports.conflicting conflict, reason]
    simp only [String.append_assoc]
  · refine ⟨"request ", " failed with code " ++ Number.intText status ++ ", content: ",
      said.getD "None", ?_, ?_⟩
    · have other : status ∉ [401, 403, 404, 409, 412] := by
        simp only [List.mem_cons, List.not_mem_nil, or_false]
        omega
      rw [reports.failed other]
      simp only [String.append_assoc]
    · rintro m rfl
      exact List.infix_refl _

theorem quotes_title (command : Command) (response : ResponseId) (status : Int)
    (said : Option String) :
    (headOf command response status said).Quotes command.current.title := by
  obtain ⟨front, middle, told, worded, -⟩ := exists_wording command response status said
  rw [String.append_assoc] at worded
  exact FaultHead.quotes_of_message worded

theorem quotes_said (command : Command) (response : ResponseId) (status : Int) (m : String) :
    (headOf command response status (some m)).Quotes m := by
  obtain ⟨front, middle, told, worded, holds⟩ := exists_wording command response status (some m)
  exact ⟨_, worded, (holds m rfl).trans (infix_behind _ told)⟩

/-- A request names its url as it is. -/
theorem infix_title {request : Request} {url : String} (asked : request.endpoint = .text url) :
    url.toList <:+: request.title.toList := by
  rw [Request.title, asked]
  exact infix_behind _ url

/-- In either style the text of a fault holds what was said. -/
theorem quotes_headIn (style : ErrorStyle) (command : Command) (response : ResponseId)
    (status : Int) (said : Option String) :
    (headIn style command response status said).Quotes (said.getD "") := by
  cases said with
  | none =>
    have named := quotes_title command response status none
    cases style <;> exact named.within List.nil_infix
  | some m =>
    cases style with
    | plain => exact quotes_said command response status m
    | vcloud =>
      rw [headIn]
      split
      · rw [ofProblem_illegalState]
        exact ⟨_, rfl, infix_behind _ m⟩
      · exact quotes_said command response status m

theorem headIn_of_idle
    (idle : ∀ m, style = .vcloud → said = some m → ¬ TellsBusy status m) :
    headIn style command response status said = headOf command response status said := by
  cases style with
  | plain => rfl
  | vcloud =>
    cases said with
    | none => rfl
    | some m => rw [headIn, if_neg (idle m rfl rfl)]

end ErrorStyle

variable {σ α : Type} [Wired σ] {w : World σ} {i : ResponseId} {r : Response}

variable (α) in
/-- A message of literal text, doubled percent signs and named fields is filled in as a whole, or
stands as it is because a field is missing, and there is no other reason not to fill it in. An empty
message gives way to the one its problem has. What fields are filled with is not read again: the
text of the fault that a failed response becomes holds what the provider sent and, unless a busy
resource is all there is to tell, the url that was asked for. -/
theorem worded_verbatim (p : Problem) (kwargs : Fields Value) {pieces : List Piece}
    (plain : ∀ piece ∈ pieces, piece.Plain) (holds : Wire.Holds w i r) (style : ErrorStyle)
    (speaks : r.Speaks style) (command : Command) :
    let used := p.inUse pieces
    let message := Value.text (Piece.text pieces)
    let details := FaultHead.details p kwargs
    let filled := String.ofList (used.flatMap (Piece.replaced details))
    (Given details used → p.strictText message details = .ok filled ∧
      (FaultHead.ofProblem p kwargs message).message = some filled) ∧
    (¬ Given details used → p.strictText message details = .error .missing ∧
      (FaultHead.ofProblem p kwargs message).message = some (Piece.text used)) ∧
    ∃ (fault : FaultId) (head : FaultHead) (w' : World σ),
      (style.fail command i : Act σ α).play w = (.error fault, w') ∧
      w'.log.get? fault = some { head with } ∧
      (∀ s, r.Sends style s → head.Quotes s) ∧
      ∀ url, command.current.endpoint = .text url →
        (∀ s, style = .vcloud → r.Sends .vcloud s → ¬ ErrorStyle.TellsBusy r.status s) →
        head.Quotes url := by
  intro used message details filled
  obtain ⟨fault, w', ended, known⟩ :=
    ErrorStyle.exists_play_fail_of_speaks α holds style speaks command
  refine ⟨fun given => ?_, fun missing => ?_, fault, _, w', ended, known, ?_, ?_⟩
  · exact ⟨Problem.strictText_of_given plain given,
      congrArg some (Problem.text_of_given plain given)⟩
  · exact ⟨Problem.strictText_of_not_given plain missing,
      congrArg some (Problem.text_of_not_given plain missing)⟩
  · intro s sends
    rw [← sends.said]
    exact ErrorStyle.quotes_headIn style command i r.status (r.said style)
  · intro url asked quiet
    have idle : ∀ m, style = .vcloud → r.said style = some m →
        ¬ ErrorStyle.TellsBusy r.status m := by
      rintro m rfl said
      exact quiet m rfl (Response.sends_of_said said)
    rw [ErrorStyle.headIn_of_idle idle]
    exact (ErrorStyle.quotes_title command i r.status _).within (ErrorStyle.infix_title asked)

/-- Percent signs and fields among what is filled in, sent and asked for. -/
theorem worded_verbatim_of_percents :
    let pieces := Piece.letters "lost " ++ [.field "a", .percent, .field "b"]
    let some_of_them : Fields Value := [("a", .text "%(b)s")]
    let all_of_them : Fields Value := [("a", .text "%(b)s"), ("b", .text "100%")]
    let worded (kwargs : Fields Value) :=
      (FaultHead.ofProblem .illegalState kwargs (.text (Piece.text pieces))).message
    let r := ErrorStyle.streamed 404 " no %(a)s here\n" none
    let command := Command.of { endpoint := .text "http://h/%(url)s" }
    (∀ piece ∈ pieces, piece.Plain) ∧ Wire.Holds (RetryHandler.offering r) 0 r ∧
      r.Speaks .vcloud ∧ worded all_of_them = some "lost %(b)s%100%" ∧
      worded some_of_them = some "lost %(a)s%%%(b)s" ∧
      ∃ (fault : FaultId) (head : FaultHead) (w' : World Store),
        (ErrorStyle.vcloud.fail command 0 : Act Store Unit).play (RetryHandler.offering r) =
            (.error fault, w') ∧
          w'.log.get? fault = some { head with } ∧ head.Quotes "no %(a)s here" ∧
          head.Quotes "http://h/%(url)s" := by
  intro pieces some_of_them all_of_them worded r command
  have plain : ∀ piece ∈ pieces, piece.Plain := by simp [pieces, Piece.letters, Piece.Plain]
  have holds : Wire.Holds (RetryHandler.offering r) 0 r := ⟨Nat.zero_lt_one, rfl⟩
  have said : r.said .vcloud = some "no %(a)s here" := by decide +kernel
  have sends := Response.sends_of_said said
  have given : Given all_of_them pieces := by
    intro name among
    simp only [pieces, Piece.letters, List.mem_append, List.mem_map, List.mem_cons, reduceCtorEq,
      and_false, exists_false, false_or, Piece.field.injEq, List.not_mem_nil, or_false] at among
    rcases among with rfl | rfl <;> rfl
  have missing : ¬ Given some_of_them pieces := by
    intro given
    have known := given "b" (by simp [pieces])
    simp only [some_of_them] at known
    cases known
  obtain ⟨filled, -, fault, head, w', ended, known, quotes, names⟩ :=
    worded_verbatim Unit .illegalState all_of_them plain holds .vcloud sends.speaks command
  obtain ⟨-, stands, -⟩ :=
    worded_verbatim Unit .illegalState some_of_them plain holds .vcloud sends.speaks command
  refine ⟨plain, holds, sends.speaks, (filled given).2.trans (by decide +kernel),
    (stands missing).2.trans (by decide +kernel), fault, head, w', ended, known, quotes _ sends, ?_⟩
  apply names _ rfl
  rintro s - - ⟨busy, -⟩
  have status : r.status = 404 := rfl
  omega

/-- An empty message is not a message of its own, a command is not a field of a failed response, and
the white space around a body is not part of what it tells. -/
theorem not_worded_verbatim_at_edges :
    let worded (p : Problem) (kwargs : Fields Value) (s : String) :=
      (FaultHead.ofProblem p kwargs (.text s)).message
    let r := ErrorStyle.streamed 500 " oops \n" none
    let command := Command.of { endpoint := .text "http://h" }
    worded .general [] "" = some "An unknown exception occurred" ∧
      worded .httpResponse [("command", .text "x")] "%(command)s" = some "%(command)s" ∧
      r.text.1 = .ok " oops \n" ∧
      ∃ (fault : FaultId) (head : FaultHead) (w' : World Store),
        (ErrorStyle.plain.fail command 0 : Act Store Unit).play (RetryHandler.offering r) =
            (.error fault, w') ∧
          w'.log.get? fault = some { head with } ∧ ¬ head.Quotes " oops \n" := by
  intro worded r command
  have text : r.text.1 = .ok " oops \n" := rfl
  have holds : Wire.Holds (RetryHandler.offering r) 0 r := ⟨Nat.zero_lt_one, rfl⟩
  have speaks : r.Speaks .plain := .inr (by rintro _ ⟨⟩)
  obtain ⟨fault, w', ended, known⟩ :=
    ErrorStyle.exists_play_fail_of_speaks Unit holds .plain speaks command
  refine ⟨by decide +kernel, by decide +kernel, text, fault, _, w', ended, known, ?_⟩
  rintro ⟨told, message, quoted⟩
  have stripped : (ErrorStyle.headIn .plain command 0 r.status (r.said .plain)).message =
      some "request GET http://h failed with code 500, content: oops" := by decide +kernel
  rw [stripped] at message
  cases message
  exact absurd quoted (by decide +kernel)

end CloudSession
