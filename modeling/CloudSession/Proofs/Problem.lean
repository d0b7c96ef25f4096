import CloudSession.Problem
import CloudSession.Proofs.Text.Template

/-! # Texts of problems

What a problem says when all its details are given: its template with each detail in its place,
however the detail itself reads.
-/

namespace CloudSession.Problem

open Text.Template

/-- The template of a problem in pieces. -/
def pieces : Problem → List Piece
  | .general => Piece.letters "An unknown exception occurred"
  | .authorization => Piece.letters "Not authorized: " ++ [.field "reason"]
  | .sessionTimeout =>
    Piece.letters "Timed out fetching " ++ .field "name" ::
      (Piece.letters " after " ++ .field "attempts" :: Piece.letters " attempt(s)")
  | .httpResponse =>
    Piece.letters "request " ++ .field "request" :: (Piece.letters " failed with code " ++
      .field "status" :: (Piece.letters ", content: " ++ [.field "content"]))
  | .resourceNotFound =>
    Piece.letters "resource not found for request " ++ .field "request" ::
      (Piece.letters ": " ++ [.field "content"])
  | .illegalState => Piece.letters "Illegal state: " ++ [.field "reason"]
  | .providerNotFound =>
    Piece.letters "The provider '" ++ .field "provider" :: Piece.letters "' was not found."

theorem template_eq (p : Problem) : p.template.toList = p.pieces.flatMap Piece.written := by
  cases p <;> simp [template, pieces, Piece.letters, Piece.written]

theorem pieces_plain (p : Problem) : ∀ piece ∈ p.pieces, piece.Plain := by
  cases p <;> simp [pieces, Piece.letters, Piece.Plain]

/-- The text of a problem whose details are all given is its template, filled piece by piece. -/
theorem text_eq {p : Problem} {details : Fields Value} {s : String}
    (filled : fillPieces details p.pieces = .ok s.toList) : p.text .null details = s := by
  have whole : p.strictText .null details = .ok s := by
    show Text.Template.fill p.template details = _
    rw [fill_pieces p.template_eq p.pieces_plain, filled, Except.map, String.ofList_toList]
  rw [text, whole]

theorem text_authorization (reason : String) :
    text .authorization .null [("reason", .text reason)] = "Not authorized: " ++ reason := by
  apply text_eq
  rw [pieces, fillPieces_letters, fillPieces_field_last rfl, String.toList_append]
  rfl

theorem text_illegalState (reason : String) :
    text .illegalState .null [("reason", .text reason)] = "Illegal state: " ++ reason := by
  apply text_eq
  rw [pieces, fillPieces_letters, fillPieces_field_last rfl, String.toList_append]
  rfl

theorem text_sessionTimeout (name : String) (attempts : Nat) :
    text .sessionTimeout .null [("name", .text name), ("attempts", .int attempts)] =
      "Timed out fetching " ++ name ++ " after " ++ toString attempts ++ " attempt(s)" := by
  apply text_eq
  rw [pieces, fillPieces_letters, fillPieces_field rfl, fillPieces_letters, fillPieces_field rfl,
    fillPieces_letters_last]
  simp only [String.toList_append, List.append_assoc]
  rfl

theorem text_providerNotFound (id : String) :
    text .providerNotFound .null [("provider", .text id)] =
      "The provider '" ++ id ++ "' was not found." := by
  apply text_eq
  rw [pieces, fillPieces_letters, fillPieces_field rfl, fillPieces_letters_last]
  simp only [String.toList_append, List.append_assoc]
  rfl

theorem text_resourceNotFound (request status content : Value) :
    text .resourceNotFound .null [("request", request), ("status", status), ("content", content)] =
      "resource not found for request " ++ request.display ++ ": " ++ content.display := by
  apply text_eq
  rw [pieces, fillPieces_letters, fillPieces_field rfl, fillPieces_letters,
    fillPieces_field_last rfl]
  simp only [String.toList_append, List.append_assoc]
  rfl

theorem text_httpResponse (request status content : Value) :
    text .httpResponse .null [("request", request), ("status", status), ("content", content)] =
      "request " ++ request.display ++ " failed with code " ++ status.display ++ ", content: " ++
        content.display := by
  apply text_eq
  rw [pieces, fillPieces_letters, fillPieces_field rfl, fillPieces_letters, fillPieces_field rfl,
    fillPieces_letters, fillPieces_field_last rfl]
  simp only [String.toList_append, List.append_assoc]
  rfl

end CloudSession.Problem
