import Mathlib
import CloudSession.Proofs.Text.Mark
import CloudSession.Url.Split

/-! # A url put together from parts

A scheme, an authority and a path that are put together into a url are found again when it is taken
apart, if none of them has marks of the others. The scheme and the path of a url that was taken
apart are of that sort.
-/

namespace CloudSession.Url

/-! ## Cutting at a mark -/

section

variable {mark : Char} {front cs : List Char}

theorem cut_of_unmarked (unmarked : mark ∉ cs) : cut mark cs = (cs, none) := by
  rw [cut, Text.takeWhile_eq_self_iff.mpr unmarked, Text.dropWhile_eq_nil unmarked]
  rfl

theorem cut_at_mark (unmarked : mark ∉ front) (back : List Char) :
    cut mark (front ++ mark :: back) = (front, some back) := by
  rw [cut, Text.takeWhile_mark unmarked, Text.dropWhile_mark unmarked]
  rfl

theorem cutLast_of_unmarked (unmarked : mark ∉ cs) : cutLast mark cs = (none, cs) := by
  have behind : mark ∉ cs.reverse := fun within => unmarked (List.mem_reverse.mp within)
  rw [cutLast, Text.takeWhile_eq_self_iff.mpr behind, Text.dropWhile_eq_nil behind,
    List.reverse_reverse]
  rfl

theorem of_mem_cut {c : Char} (within : c ∈ (cut mark cs).1) : c ∈ cs ∧ c ≠ mark :=
  Text.of_mem_takeWhile within

theorem head?_of_head?_cut {c : Char} (begins : (cut mark cs).1.head? = some c) :
    cs.head? = some c := by
  obtain ⟨rest, whole⟩ := List.head?_eq_some_iff.mp begins
  obtain ⟨back, same⟩ := List.takeWhile_prefix (p := (· ≠ mark)) (l := cs)
  rw [← same, show cs.takeWhile (· ≠ mark) = c :: rest from whole]
  rfl

end

/-! ## Parts as they come from a url -/

/-- A character that is dropped wherever it stands in a url. -/
def isDropped (c : Char) : Bool := c == '\t' || c == '\r' || c == '\n'

/-- A scheme in small letters. -/
structure IsScheme (cs : List Char) : Prop where
  begins : ∃ c rest, cs = c :: rest ∧ c.isAlpha = true
  letters : ∀ c ∈ cs, isSchemeChar c = true
  small : ∀ c ∈ cs, c.toLower = c

/-- A path behind an authority. -/
structure IsPath (cs : List Char) : Prop where
  begins : ∀ c, cs.head? = some c → c = '/'
  unmarked : ∀ c ∈ cs, c ≠ '?' ∧ c ≠ '#'
  kept : ∀ c ∈ cs, isDropped c = false

theorem isSchemeChar_toLower {c : Char} (letter : isSchemeChar c = true) :
    isSchemeChar c.toLower = true := by
  by_cases upper : c.isUpper = true
  · have alpha : c.toLower.isAlpha = true := by
      rw [Char.isAlpha_toLower_eq_isAlpha, Char.isAlpha, upper, Bool.true_or]
    simp [isSchemeChar, Char.isAlphanum, alpha]
  · rwa [Char.toLower_eq_of_not_isUpper upper]

/-- The scheme of a text that has one. -/
theorem isScheme_splitScheme {cs : List Char} (schemed : (splitScheme cs).1 ≠ []) :
    IsScheme (splitScheme cs).1 := by
  unfold splitScheme at schemed ⊢
  split at schemed
  · rename_i c name rest met
    split_ifs at schemed ⊢ with sound
    · rw [Bool.and_eq_true, List.all_eq_true] at sound
      refine ⟨⟨c.toLower, name.map Char.toLower, rfl, ?_⟩, fun d within => ?_, fun d within => ?_⟩
      · rw [Char.isAlpha_toLower_eq_isAlpha, sound.1]
      · obtain ⟨e, among, rfl⟩ := List.mem_map.mp within
        exact isSchemeChar_toLower (sound.2 e among)
      · obtain ⟨e, -, rfl⟩ := List.mem_map.mp within
        exact Char.toLower_toLower_eq_toLower e
    · exact absurd rfl schemed
  · exact absurd rfl schemed

theorem mem_splitScheme {cs : List Char} {c : Char} (within : c ∈ (splitScheme cs).2) : c ∈ cs := by
  unfold splitScheme at within
  split at within
  · rename_i d name rest met
    split_ifs at within
    · have behind : (cs.dropWhile (· ≠ ':')).tail? = some rest := congrArg Prod.snd met
      cases whole : cs.dropWhile (· ≠ ':') with
      | nil => rw [whole] at behind; cases behind
      | cons mark after =>
        rw [whole] at behind
        cases behind
        exact (List.dropWhile_sublist _).subset (whole ▸ List.mem_cons_of_mem mark within)
    · exact within
  · exact within

/-- A character inside an authority. -/
def isInside (c : Char) : Bool := c ≠ '/' && c ≠ '?' && c ≠ '#'

theorem splitAuthority_slashes (rest : List Char) :
    splitAuthority ('/' :: '/' :: rest) = (rest.takeWhile isInside, rest.dropWhile isInside) :=
  rfl

/-- What follows an authority is of the text, and begins with the mark of one of the other parts. -/
theorem of_splitAuthority {cs : List Char} (found : (splitAuthority cs).1 ≠ []) :
    (∀ c ∈ (splitAuthority cs).2, c ∈ cs) ∧
      ∀ c, (splitAuthority cs).2.head? = some c → isInside c = false := by
  unfold splitAuthority at found ⊢
  split at found
  · rename_i rest
    refine ⟨fun c within => ?_, fun c begins => ?_⟩
    · have among : c ∈ rest := (List.dropWhile_sublist _).subset within
      exact List.mem_cons_of_mem _ (List.mem_cons_of_mem _ among)
    · have outside := List.head?_dropWhile_not isInside rest
      rwa [show (rest.dropWhile isInside).head? = some c from begins] at outside
  · exact absurd rfl found

theorem not_isDropped_of_mem_tidy {cs : List Char} {c : Char} (within : c ∈ tidy cs) :
    isDropped c = false := by
  have kept := (List.mem_filter.mp within).2
  simpa [isDropped, and_assoc] using kept

/-- The path behind an authority, where query and fragment are cut off. -/
theorem isPath_cut {cs : List Char} (kept : ∀ c ∈ cs, isDropped c = false)
    (begins : ∀ c, cs.head? = some c → isInside c = false) :
    IsPath (cut '?' (cut '#' cs).1).1 where
  begins c first := by
    have unmarked : c ≠ '?' ∧ c ≠ '#' := by
      have within := List.mem_of_mem_head? first
      exact ⟨(of_mem_cut within).2, (of_mem_cut (of_mem_cut within).1).2⟩
    have ends := begins c (head?_of_head?_cut (head?_of_head?_cut first))
    simpa [isInside, unmarked] using ends
  unmarked c within := ⟨(of_mem_cut within).2, (of_mem_cut (of_mem_cut within).1).2⟩
  kept c within := kept c (of_mem_cut (of_mem_cut within).1).1

/-- A url is taken apart stage by stage. -/
theorem split_eq (url : String) :
    split url =
      let schemed := splitScheme (tidy url.toList)
      let found := splitAuthority schemed.2
      let whole := cut '#' found.2
      let place := cut '?' whole.1
      (checkBrackets found.1).bind fun _ =>
        if found.1.any fun c => disguises.contains c.toNat then .error .disguised
        else
          .ok ⟨String.ofList schemed.1, String.ofList found.1, String.ofList place.1,
            String.ofList (place.2.getD []), String.ofList (whole.2.getD [])⟩ :=
  rfl

/-- The scheme that was found in a url is in small letters, and the path behind an authority has
none of the marks of other parts. -/
theorem isScheme_isPath_of_split {url : String} {parts : Parts} (splits : split url = .ok parts) :
    (parts.scheme ≠ "" → IsScheme parts.scheme.toList) ∧
      (parts.authority ≠ "" → IsPath parts.path.toList) := by
  rw [split_eq] at splits
  cases brackets : checkBrackets (splitAuthority (splitScheme (tidy url.toList)).2).1 with
  | error e =>
    simp only [brackets, Except.bind] at splits
    cases splits
  | ok checked =>
    simp only [brackets, Except.bind] at splits
    split_ifs at splits
    cases splits
    refine ⟨fun schemed => ?_, fun found => ?_⟩
    · rw [String.toList_ofList]
      exact isScheme_splitScheme fun nothing => schemed (by rw [nothing])
    · obtain ⟨among, begins⟩ := of_splitAuthority fun nothing => found (by rw [nothing])
      rw [String.toList_ofList]
      exact isPath_cut
        (fun c within => not_isDropped_of_mem_tidy (mem_splitScheme (among c within))) begins

/-! ## Putting parts together -/

/-- An authority without brackets and characters that are dropped or stand for others. -/
structure IsBareAuthority (cs : List Char) : Prop where
  inside : ∀ c ∈ cs, isInside c = true
  kept : ∀ c ∈ cs, isDropped c = false
  bracketless : '[' ∉ cs ∧ ']' ∉ cs
  undisguised : ∀ c ∈ cs, c.toNat ∉ disguises

theorem isDropped_of_isSchemeChar {c : Char} (letter : isSchemeChar c = true) :
    isDropped c = false := by
  refine Bool.eq_false_iff.mpr fun dropped => ?_
  simp only [isDropped, Bool.or_eq_true, beq_iff_eq] at dropped
  rcases dropped with (rfl | rfl) | rfl <;> exact absurd letter (by decide)

theorem lt_toNat_of_isAlpha {c : Char} (alpha : c.isAlpha = true) : 32 < c.toNat := by
  simp only [Char.isAlpha, Char.isUpper, Char.isLower, ge_iff_le, Bool.or_eq_true, Bool.and_eq_true,
    decide_eq_true_eq, UInt32.le_iff_toNat_le, Char.reduceVal, UInt32.reduceToNat] at alpha
  have same : c.toNat = c.val.toNat := rfl
  omega

/-- A visible character stands in front, so there is nothing to be dropped. -/
theorem tidy_of_kept {c : Char} {cs : List Char} (visible : 32 < c.toNat)
    (kept : ∀ d ∈ c :: cs, isDropped d = false) : tidy (c :: cs) = c :: cs := by
  rw [tidy, List.dropWhile_cons_of_neg (by simpa using visible)]
  refine List.filter_eq_self.mpr fun d within => ?_
  have other := kept d within
  simpa [isDropped, and_assoc] using other

theorem IsScheme.splitScheme_eq {cs : List Char} (scheme : IsScheme cs) (rest : List Char) :
    splitScheme (cs ++ ':' :: rest) = (cs, rest) := by
  have unmarked : ':' ∉ cs := fun within => absurd (scheme.letters ':' within) (by decide)
  have letters : cs.all isSchemeChar = true := List.all_eq_true.mpr scheme.letters
  have small : cs.map Char.toLower = cs :=
    (List.map_congr_left scheme.small).trans (List.map_id cs)
  obtain ⟨c, name, rfl, alpha⟩ := scheme.begins
  rw [splitScheme, cut_at_mark unmarked]
  simp only [alpha, letters, Bool.and_self, if_true, small]

/-- An authority ends where a path begins. -/
theorem IsBareAuthority.splitAuthority_eq {authority path : List Char}
    (bare : IsBareAuthority authority) (behind : IsPath path) :
    splitAuthority ('/' :: '/' :: (authority ++ path)) = (authority, path) := by
  have ends : ∀ c, path.head? = some c → isInside c = false := by
    intro c begins
    rw [behind.begins c begins]
    rfl
  rw [splitAuthority_slashes, Text.takeWhile_append_eq bare.inside ends,
    Text.dropWhile_append_eq bare.inside ends]

theorem IsBareAuthority.checkBrackets_eq {authority : List Char}
    (bare : IsBareAuthority authority) : checkBrackets authority = .ok () := by
  simp [checkBrackets, bare.bracketless]

/-- Scheme, authority and path are found again. -/
theorem split_put_together {scheme authority path : List Char} (small : IsScheme scheme)
    (bare : IsBareAuthority authority) (behind : IsPath path) :
    split (String.ofList (scheme ++ ':' :: '/' :: '/' :: (authority ++ path))) =
      .ok ⟨String.ofList scheme, String.ofList authority, String.ofList path, "", ""⟩ := by
  have visible : tidy (scheme ++ ':' :: '/' :: '/' :: (authority ++ path)) =
      scheme ++ ':' :: '/' :: '/' :: (authority ++ path) := by
    have kept : ∀ c ∈ scheme ++ ':' :: '/' :: '/' :: (authority ++ path), isDropped c = false := by
      intro c within
      simp only [List.mem_append, List.mem_cons] at within
      rcases within with within | rfl | rfl | rfl | within | within
      · exact isDropped_of_isSchemeChar (small.letters c within)
      · rfl
      · rfl
      · rfl
      · exact bare.kept c within
      · exact behind.kept c within
    obtain ⟨c, name, rfl, alpha⟩ := small.begins
    exact tidy_of_kept (lt_toNat_of_isAlpha alpha) kept
  have undisguised : (authority.any fun c => disguises.contains c.toNat) = false := by
    simpa using bare.undisguised
  have queryless : cut '?' path = (path, none) :=
    cut_of_unmarked fun within => (behind.unmarked _ within).1 rfl
  have fragmentless : cut '#' path = (path, none) :=
    cut_of_unmarked fun within => (behind.unmarked _ within).2 rfl
  rw [split_eq, String.toList_ofList, visible, small.splitScheme_eq]
  simp only [bare.splitAuthority_eq behind, bare.checkBrackets_eq, fragmentless, queryless,
    undisguised]
  rfl

end CloudSession.Url
