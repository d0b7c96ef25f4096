import CloudSession.Proofs.Text.Mark
import CloudSession.Url.Join
import Mathlib.Data.List.DropRight
import Mathlib.Data.List.Forall2

/-! # Joining, part by part

A joined url is its base and the parts of its segments, with one slash before each part. Neither the
base nor a part ends in a slash, so joining in two goes is joining in one.
-/

namespace CloudSession.Url

/-- A text of slashes. -/
def slashes (n : Nat) : List Char := List.replicate n '/'

/-- `front` is what is left of a text without the slashes at its end. -/
structure IsFront (cs front : List Char) : Prop where
  around : ∃ n, cs = front ++ slashes n
  ends : front.getLast? ≠ some '/'

/-- `part` is what is left of a text without the slashes at both its ends. -/
structure IsPart (cs part : List Char) : Prop where
  around : ∃ m n, cs = slashes m ++ part ++ slashes n
  begins : part.head? ≠ some '/'
  ends : part.getLast? ≠ some '/'

variable {cs front part : List Char}

theorem isSlash_of_mem_slashes {n : Nat} : ∀ c ∈ slashes n, isSlash c = true := by
  simp [slashes, isSlash]

theorem eq_slashes_of_isSlash (only : ∀ c ∈ cs, isSlash c = true) : cs = slashes cs.length := by
  apply List.eq_replicate_of_mem
  simpa [isSlash] using only

/-! ## Slashes cut from the ends -/

theorem stripSlashesRight_eq_self_iff : stripSlashesRight cs = cs ↔ cs.getLast? ≠ some '/' := by
  show cs.rdropWhile isSlash = cs ↔ _
  rw [List.rdropWhile_eq_self_iff]
  cases cs using List.reverseRecOn with
  | nil => simp
  | append_singleton cs c => simp [isSlash]

theorem isFront_stripSlashesRight (cs : List Char) : IsFront cs (stripSlashesRight cs) where
  around := by
    have cut : cs.rdropWhile isSlash ++ cs.rtakeWhile isSlash = cs :=
      List.rdropWhile_append_rtakeWhile
    have only : ∀ c ∈ cs.rtakeWhile isSlash, isSlash c = true := fun c => List.mem_rtakeWhile_imp
    exact ⟨_, (eq_slashes_of_isSlash only ▸ cut).symm⟩
  ends := stripSlashesRight_eq_self_iff.mp (List.rdropWhile_idempotent isSlash cs)

theorem IsFront.stripSlashesRight_eq (left : IsFront cs front) : stripSlashesRight cs = front := by
  obtain ⟨⟨n, rfl⟩, ends⟩ := left
  induction n with
  | zero => simpa [slashes] using stripSlashesRight_eq_self_iff.mpr ends
  | succ n ih =>
    show (front ++ slashes (n + 1)).rdropWhile isSlash = front
    rw [slashes, List.replicate_succ', ← List.append_assoc, List.rdropWhile_concat_pos _ _ _ rfl]
    exact ih

theorem isPart_stripSlashes (cs : List Char) : IsPart cs (stripSlashes cs) := by
  have left := isFront_stripSlashesRight (cs.dropWhile isSlash)
  have only : ∀ c ∈ cs.takeWhile isSlash, isSlash c = true := fun c => List.mem_takeWhile_imp
  have begins : (cs.dropWhile isSlash).head? ≠ some '/' := by
    intro slash
    have other := List.head?_dropWhile_not isSlash cs
    rw [slash] at other
    cases other
  obtain ⟨n, behind⟩ := left.around
  refine ⟨⟨(cs.takeWhile isSlash).length, n, ?_⟩, ?_, left.ends⟩
  · calc cs = cs.takeWhile isSlash ++ cs.dropWhile isSlash := List.takeWhile_append_dropWhile.symm
      _ = slashes (cs.takeWhile isSlash).length ++ cs.dropWhile isSlash := by
        rw [← eq_slashes_of_isSlash only]
      _ = _ := by rw [List.append_assoc]; exact congrArg _ behind
  · intro slash
    rw [behind, List.head?_append, show (stripSlashesRight _).head? = _ from slash] at begins
    exact begins rfl

/-- What is left of a text between slashes is the only text that they can be put around. -/
theorem IsPart.stripSlashes_eq (left : IsPart cs part) : stripSlashes cs = part := by
  obtain ⟨⟨m, n, rfl⟩, begins, ends⟩ := left
  have behind : IsFront (part ++ slashes n) part := ⟨⟨n, rfl⟩, ends⟩
  cases part with
  | nil =>
    have all_slashes : ∀ c ∈ slashes m ++ [] ++ slashes n, isSlash c = true := by
      simp only [List.append_nil, List.mem_append]
      rintro c (before | after)
      · exact isSlash_of_mem_slashes c before
      · exact isSlash_of_mem_slashes c after
    rw [stripSlashes, List.dropWhile_eq_nil_iff.mpr all_slashes]
    rfl
  | cons c part =>
    have other : isSlash c = false := by simpa [isSlash] using begins
    have cut :
        (slashes m ++ (c :: part ++ slashes n)).dropWhile isSlash = c :: part ++ slashes n := by
      apply Text.dropWhile_append_eq isSlash_of_mem_slashes
      rintro d ⟨⟩
      exact other
    rw [stripSlashes, List.append_assoc, cut]
    exact behind.stripSlashesRight_eq

theorem slashes_add (m n : Nat) : slashes (m + n) = slashes m ++ slashes n :=
  List.replicate_add m n '/'

/-- Slashes around a text do not count. -/
theorem stripSlashes_around (m n : Nat) (cs : List Char) :
    stripSlashes (slashes m ++ cs ++ slashes n) = stripSlashes cs := by
  obtain ⟨⟨m', n', whole⟩, begins, ends⟩ := isPart_stripSlashes cs
  have further : slashes m ++ cs ++ slashes n =
      slashes (m + m') ++ stripSlashes cs ++ slashes (n' + n) := by
    conv_lhs => rw [whole]
    simp only [slashes_add, List.append_assoc]
  exact IsPart.stripSlashes_eq ⟨⟨_, _, further⟩, begins, ends⟩

theorem stripSlashes_slashes (n : Nat) : stripSlashes (slashes n) = [] :=
  IsPart.stripSlashes_eq ⟨⟨n, 0, by simp [slashes]⟩, by simp, by simp⟩

theorem stripSlashesRight_behind (cs : List Char) (n : Nat) :
    stripSlashesRight (cs ++ slashes n) = stripSlashesRight cs := by
  obtain ⟨⟨n', whole⟩, ends⟩ := isFront_stripSlashesRight cs
  have further : cs ++ slashes n = stripSlashesRight cs ++ slashes (n' + n) := by
    conv_lhs => rw [whole]
    simp only [slashes_add, List.append_assoc]
  exact IsFront.stripSlashesRight_eq ⟨⟨_, further⟩, ends⟩

/-! ## Segment by segment -/

/-- A segment behind a url, in the words of its part. -/
theorem appendSegment_eq (url segment : List Char) :
    appendSegment url segment =
      if stripSlashes segment = [] then url else url ++ '/' :: stripSlashes segment := by
  unfold appendSegment
  split
  · rename_i nothing
    rw [if_pos nothing]
  · rename_i something
    rw [if_neg something]

theorem appendSegment_around (url segment : List Char) (m n : Nat) :
    appendSegment url (slashes m ++ segment ++ slashes n) = appendSegment url segment := by
  rw [appendSegment_eq, appendSegment_eq, stripSlashes_around]

theorem appendSegment_slashes (url : List Char) (n : Nat) :
    appendSegment url (slashes n) = url := by
  rw [appendSegment_eq, stripSlashes_slashes, if_pos rfl]

/-- Whatever is appended, a url that ends in no slash goes on to end in none. -/
theorem getLast?_appendSegment {url : List Char} (ends : url.getLast? ≠ some '/')
    (segment : List Char) : (appendSegment url segment).getLast? ≠ some '/' := by
  have part_ends := (isPart_stripSlashes segment).ends
  rw [appendSegment_eq]
  split
  · exact ends
  · rename_i something
    rwa [List.getLast?_append, List.getLast?_cons_of_ne_nil something,
      Option.or_of_isSome (by simpa using something)]

/-- One segment after another behind a url. -/
def appendAll (url : List Char) (segments : List String) : List Char :=
  segments.foldl (fun url segment => appendSegment url segment.toList) url

theorem toList_join (base : String) (segments : List String) :
    (join base segments).toList = appendAll (stripSlashesRight base.toList) segments :=
  String.toList_ofList

theorem appendAll_cons (url : List Char) (segment : String) (rest : List String) :
    appendAll url (segment :: rest) = appendAll (appendSegment url segment.toList) rest :=
  rfl

theorem appendAll_append (url : List Char) (xs ys : List String) :
    appendAll url (xs ++ ys) = appendAll (appendAll url xs) ys :=
  List.foldl_append

theorem getLast?_appendAll {url : List Char} (ends : url.getLast? ≠ some '/')
    (segments : List String) : (appendAll url segments).getLast? ≠ some '/' := by
  induction segments generalizing url with
  | nil => exact ends
  | cons segment rest ih => exact ih (getLast?_appendSegment ends _)

/-- The parts of segments, nothing left out. -/
def strippedAll (segments : List String) : List (List Char) :=
  segments.map fun segment => stripSlashes segment.toList

theorem intercalate_behind (url part : List Char) (parts : List (List Char)) :
    ['/'].intercalate ((url ++ '/' :: part) :: parts) =
      ['/'].intercalate (url :: part :: parts) := by
  induction url with
  | nil => simp [List.intercalate_cons_cons]
  | cons c url ih => simpa using ih

/-- The parts that are not empty stand behind a url with one slash before each. -/
theorem appendAll_eq_intercalate (url : List Char) (segments : List String) :
    appendAll url segments =
      ['/'].intercalate (url :: (strippedAll segments).filter (· ≠ [])) := by
  induction segments generalizing url with
  | nil => simp [appendAll, strippedAll]
  | cons segment rest ih =>
    have first : strippedAll (segment :: rest) =
        stripSlashes segment.toList :: strippedAll rest := rfl
    rw [appendAll_cons, first, ih, appendSegment_eq]
    by_cases nothing : stripSlashes segment.toList = []
    · rw [if_pos nothing, List.filter_cons_of_neg (by simpa using nothing)]
    · rw [if_neg nothing, List.filter_cons_of_pos (by simpa using nothing), intercalate_behind]

/-- Joining in two goes is joining in one, as what comes of the first ends in no slash. Slashes
around a segment or behind the base do not count, nor do segments of nothing else, and what is left
is joined by one slash each. -/
theorem join_composes (base : String) (xs ys : List String) :
    join base (xs ++ ys) = join (join base xs) ys ∧
    (join base xs).toList.getLast? ≠ some '/' ∧
    (∀ n, join (base ++ String.ofList (slashes n)) xs = join base xs) ∧
    (∀ (m n : Nat) (segment : String),
      join base (xs ++ String.ofList (slashes m ++ segment.toList ++ slashes n) :: ys) =
        join base (xs ++ segment :: ys)) ∧
    (∀ n, join base (xs ++ String.ofList (slashes n) :: ys) = join base (xs ++ ys)) ∧
    ∃ front parts, IsFront base.toList front ∧
      List.Forall₂ (fun segment part => IsPart segment.toList part) xs parts ∧
      (join base xs).toList = ['/'].intercalate (front :: parts.filter (· ≠ [])) := by
  have front := isFront_stripSlashesRight base.toList
  have ends : (join base xs).toList.getLast? ≠ some '/' := by
    rw [toList_join]
    exact getLast?_appendAll front.ends xs
  refine ⟨?_, ends, ?_, ?_, ?_, _, strippedAll xs, front, ?_, ?_⟩
  · apply String.toList_inj.mp
    rw [toList_join, toList_join _ ys, stripSlashesRight_eq_self_iff.mpr ends, toList_join,
      appendAll_append]
  · intro n
    apply String.toList_inj.mp
    rw [toList_join, toList_join, String.toList_append, String.toList_ofList,
      stripSlashesRight_behind]
  · intro m n segment
    apply String.toList_inj.mp
    simp only [toList_join, appendAll_append, appendAll_cons, String.toList_ofList,
      appendSegment_around]
  · intro n
    apply String.toList_inj.mp
    simp only [toList_join, appendAll_append, appendAll_cons, String.toList_ofList,
      appendSegment_slashes]
  · rw [strippedAll, List.forall₂_map_right_iff, List.forall₂_same]
    exact fun segment _ => isPart_stripSlashes segment.toList
  · rw [toList_join, appendAll_eq_intercalate]

end CloudSession.Url
