import CloudSession.Text.Template

/-! # Templates piece by piece

A template of literal text, doubled percent signs and named fields is filled piece by piece. What a
field is filled with stands as it is: it is never read as a template.
-/

namespace CloudSession.Text.Template

/-- A part of a template whose fields have neither flags nor widths. -/
inductive Piece where
  | letter (c : Char)
  | percent
  | field (name : String)

namespace Piece

def written : Piece → List Char
  | letter c => [c]
  | percent => ['%', '%']
  | field name => '%' :: '(' :: (name.toList ++ [')', 's'])

/-- A piece that is read back as it was written. -/
def Plain : Piece → Prop
  | letter c => c ≠ '%'
  | percent => True
  | field name => ∀ c ∈ name.toList, c ≠ '(' ∧ c ≠ ')'

instance : DecidablePred Plain
  | letter c => inferInstanceAs (Decidable (c ≠ '%'))
  | percent => inferInstanceAs (Decidable True)
  | field name => inferInstanceAs (Decidable (∀ c ∈ name.toList, c ≠ '(' ∧ c ≠ ')'))

/-- What a piece is filled with; none when there is no such field. -/
def filled? (details : Fields Value) : Piece → Option (List Char)
  | letter c => some [c]
  | percent => some ['%']
  | field name => (details.get? name).map fun v => v.display.toList

end Piece

variable {details : Fields Value}

theorem splitName_plain (name taken rest : List Char) (plain : ∀ c ∈ name, c ≠ '(' ∧ c ≠ ')') :
    splitName 0 taken (name ++ ')' :: rest) =
      some (String.ofList (taken.reverse ++ name), rest) := by
  induction name generalizing taken with
  | nil => simp [splitName]
  | cons c name ih =>
    obtain ⟨open_free, close_free⟩ := plain c List.mem_cons_self
    have fewer := ih (c :: taken) fun d within => plain d (List.mem_cons_of_mem c within)
    rw [List.cons_append, splitName, fewer]
    · simp
    · simpa using close_free
    · simpa using open_free

@[simp]
theorem fillText_bare (s : String) : fillText {} s = s.toList := by
  simp [fillText, pad]

/-- A named field without flags is filled with how its value reads. -/
theorem directive_field (details : Fields Value) (hand : AtHand) {name : String}
    (rest : List Char) (plain : (Piece.field name).Plain) :
    directive details hand ('(' :: (name.toList ++ ')' :: 's' :: rest)) =
      match details.get? name with
      | some v => .ok (v.display.toList, .used, rest)
      | none => .error .missing := by
  rw [directive]
  · simp only [splitName_plain _ _ _ plain, List.reverse_nil, List.nil_append, String.ofList_toList]
    cases details.get? name with
    | none => rfl
    | some v =>
      show Except.ok (fillText {} v.display, AtHand.used, rest) = _
      rw [fillText_bare]

theorem fillFrom_directive (hand : AtHand) (fuel : Nat) (cs : List Char) :
    fillFrom details hand (fuel + 1) ('%' :: cs) =
      (directive details hand cs).bind fun (written, hand, rest) =>
        (fillFrom details hand fuel rest).map (written ++ ·) := by
  rw [fillFrom]
  cases directive details hand cs with
  | error failure => rfl
  | ok filled =>
    obtain ⟨written, hand, rest⟩ := filled
    show (fillFrom details hand fuel rest).bind _ = (fillFrom details hand fuel rest).map _
    cases fillFrom details hand fuel rest <;> rfl

/-- One piece after another: what follows a piece that was filled is filled in its turn. -/
theorem exists_fillFrom_written (details : Fields Value) {piece : Piece} (plain : piece.Plain)
    (hand : AtHand) (fuel : Nat) (rest : List Char) :
    ∃ later, fillFrom details hand (fuel + 1) (piece.written ++ rest) =
      match piece.filled? details with
      | some filled => (fillFrom details later fuel rest).map (filled ++ ·)
      | none => .error .missing := by
  cases piece with
  | letter c =>
    refine ⟨hand, ?_⟩
    rw [Piece.written, List.singleton_append, fillFrom]
    · show (fillFrom details hand fuel rest).bind _ = (fillFrom details hand fuel rest).map _
      cases fillFrom details hand fuel rest <;> rfl
    · simpa [Piece.Plain] using plain
  | percent => exact ⟨hand, fillFrom_directive hand fuel ('%' :: rest)⟩
  | field name =>
    refine ⟨.used, ?_⟩
    have apart : (Piece.field name).written ++ rest =
        '%' :: '(' :: (name.toList ++ ')' :: 's' :: rest) := by
      simp [Piece.written]
    rw [apart, fillFrom_directive, directive_field details hand rest plain, Piece.filled?]
    cases details.get? name <;> rfl

/-- What is written for pieces: one after another, up to a field that there is not. -/
def fillPieces (details : Fields Value) : List Piece → Except Failure (List Char)
  | [] => .ok []
  | piece :: rest =>
    match piece.filled? details with
    | some filled => (fillPieces details rest).map (filled ++ ·)
    | none => .error .missing

theorem fillFrom_pieces {pieces : List Piece} (plain : ∀ piece ∈ pieces, piece.Plain)
    (hand : AtHand) {fuel : Nat} (enough : (pieces.flatMap Piece.written).length ≤ fuel) :
    fillFrom details hand fuel (pieces.flatMap Piece.written) = fillPieces details pieces := by
  induction pieces generalizing hand fuel with
  | nil => cases fuel <;> rfl
  | cons piece rest ih =>
    have some_letter : 0 < piece.written.length := by
      cases piece <;> exact Nat.succ_pos _
    rw [List.flatMap_cons, List.length_append] at enough
    obtain ⟨fewer, rfl⟩ : ∃ fewer, fuel = fewer + 1 := Nat.exists_eq_add_one.mpr (by omega)
    obtain ⟨later, filled⟩ := exists_fillFrom_written details (plain piece List.mem_cons_self) hand
      fewer (rest.flatMap Piece.written)
    have others : fillFrom details later fewer (rest.flatMap Piece.written) =
        fillPieces details rest :=
      ih (fun other within => plain other (List.mem_cons_of_mem piece within)) later (by omega)
    rw [List.flatMap_cons, filled, fillPieces, others]

/-- A template is filled piece by piece. -/
theorem fill_pieces {template : String} {pieces : List Piece}
    (written : template.toList = pieces.flatMap Piece.written)
    (plain : ∀ piece ∈ pieces, piece.Plain) (details : Fields Value) :
    fill template details = (fillPieces details pieces).map String.ofList := by
  rw [fill, written, fillFrom_pieces plain _ (Nat.le_refl _)]

/-- Literal text as pieces. -/
def Piece.letters (s : String) : List Piece := s.toList.map .letter

theorem fillPieces_letters (s : String) (rest : List Piece) :
    fillPieces details (Piece.letters s ++ rest) =
      (fillPieces details rest).map (s.toList ++ ·) := by
  unfold Piece.letters
  induction s.toList with
  | nil => cases h : fillPieces details rest <;> simp [h, Except.map]
  | cons c cs ih =>
    rw [List.map_cons, List.cons_append, fillPieces, ih]
    cases fillPieces details rest <;> rfl

theorem fillPieces_letters_last (s : String) :
    fillPieces details (Piece.letters s) = .ok s.toList := by
  have nothing_more : Piece.letters s = Piece.letters s ++ [] := (List.append_nil _).symm
  rw [nothing_more, fillPieces_letters, fillPieces, Except.map, List.append_nil]

theorem fillPieces_field {name : String} {v : Value} (given : details.get? name = some v)
    (rest : List Piece) : fillPieces details (.field name :: rest) =
      (fillPieces details rest).map (v.display.toList ++ ·) := by
  rw [fillPieces, Piece.filled?, given]
  rfl

theorem fillPieces_field_last {name : String} {v : Value} (given : details.get? name = some v) :
    fillPieces details [.field name] = .ok v.display.toList := by
  rw [fillPieces_field given, fillPieces, Except.map, List.append_nil]

/-! ## All pieces or none -/

/-- What a piece is filled with; nothing when there is no such field. -/
def Piece.replaced (details : Fields Value) : Piece → List Char
  | letter c => [c]
  | percent => ['%']
  | field name =>
    match details.get? name with
    | some v => v.display.toList
    | none => []

/-- The text of a template that is written in pieces. -/
def Piece.text (pieces : List Piece) : String := String.ofList (pieces.flatMap Piece.written)

theorem Piece.written_ne_nil (piece : Piece) : piece.written ≠ [] := by
  cases piece <;> simp [written]

/-- Every field of a template is among the details. -/
def Given (details : Fields Value) (pieces : List Piece) : Prop :=
  ∀ name, .field name ∈ pieces → (details.get? name).isSome = true

theorem fillPieces_of_given {pieces : List Piece} (given : Given details pieces) :
    fillPieces details pieces = .ok (pieces.flatMap (Piece.replaced details)) := by
  induction pieces with
  | nil => rfl
  | cons piece rest ih =>
    have others : Given details rest :=
      fun name among => given name (List.mem_cons_of_mem piece among)
    have filled : piece.filled? details = some (piece.replaced details) := by
      cases piece with
      | letter c => rfl
      | percent => rfl
      | field name =>
        obtain ⟨v, known⟩ := Option.isSome_iff_exists.mp (given name List.mem_cons_self)
        simp [Piece.filled?, Piece.replaced, known]
    rw [fillPieces, filled, ih others]
    rfl

/-- One field that is missing is enough, however much was filled before it. -/
theorem fillPieces_of_not_given {pieces : List Piece} (missing : ¬ Given details pieces) :
    fillPieces details pieces = .error .missing := by
  induction pieces with
  | nil => exact absurd (fun _ among => nomatch among) missing
  | cons piece rest ih =>
    rw [fillPieces]
    cases filled : piece.filled? details with
    | none => rfl
    | some written =>
      have among_rest : ¬ Given details rest := by
        intro others
        apply missing
        intro name among
        rcases List.mem_cons.mp among with rfl | among
        · cases known : details.get? name with
          | none => simp [Piece.filled?, known] at filled
          | some v => rfl
        · exact others name among
      rw [ih among_rest]
      rfl

end CloudSession.Text.Template
