import Mathlib.Data.List.TakeWhile
import Mathlib.Tactic.Common

/-! # Texts up to a mark

A text is cut where the first character stands that does not go on with it, often a single mark.
-/

namespace CloudSession.Text

section

variable {goesOn : Char → Bool} {front back : List Char}

theorem takeWhile_append_eq (inside : ∀ c ∈ front, goesOn c = true)
    (ends : ∀ c, back.head? = some c → goesOn c = false) :
    (front ++ back).takeWhile goesOn = front := by
  rw [List.takeWhile_append_of_pos inside]
  cases back with
  | nil => exact List.append_nil front
  | cons c back => rw [List.takeWhile_cons_of_neg (by simp [ends c rfl]), List.append_nil]

theorem dropWhile_append_eq (inside : ∀ c ∈ front, goesOn c = true)
    (ends : ∀ c, back.head? = some c → goesOn c = false) :
    (front ++ back).dropWhile goesOn = back := by
  rw [List.dropWhile_append_of_pos inside]
  cases back with
  | nil => rfl
  | cons c back => exact List.dropWhile_cons_of_neg (by simp [ends c rfl])

end

variable {mark : Char} {front cs : List Char}

theorem ne_mark (unmarked : mark ∉ cs) : ∀ c ∈ cs, decide (c ≠ mark) = true :=
  fun _ within => decide_eq_true (ne_of_mem_of_not_mem within unmarked)

theorem head?_mark (back : List Char) :
    ∀ c, (mark :: back).head? = some c → decide (c ≠ mark) = false := by
  rintro c ⟨⟩
  exact decide_eq_false (not_not_intro rfl)

theorem takeWhile_mark (unmarked : mark ∉ front) (back : List Char) :
    (front ++ mark :: back).takeWhile (· ≠ mark) = front :=
  takeWhile_append_eq (ne_mark unmarked) (head?_mark back)

theorem dropWhile_mark (unmarked : mark ∉ front) (back : List Char) :
    (front ++ mark :: back).dropWhile (· ≠ mark) = mark :: back :=
  dropWhile_append_eq (ne_mark unmarked) (head?_mark back)

/-- What stands before the first mark is in the text, and is not the mark. -/
theorem of_mem_takeWhile {c : Char} (within : c ∈ cs.takeWhile (· ≠ mark)) : c ∈ cs ∧ c ≠ mark :=
  ⟨(List.takeWhile_sublist _).subset within, by simpa using List.mem_takeWhile_imp within⟩

theorem takeWhile_eq_self_iff : cs.takeWhile (· ≠ mark) = cs ↔ mark ∉ cs := by
  constructor
  · intro same within
    exact (of_mem_takeWhile (same.symm ▸ within)).2 rfl
  · exact fun unmarked => List.takeWhile_eq_self_iff.mpr (ne_mark unmarked)

theorem dropWhile_eq_nil (unmarked : mark ∉ cs) : cs.dropWhile (· ≠ mark) = [] :=
  List.dropWhile_eq_nil_iff.mpr (ne_mark unmarked)

end CloudSession.Text
