import CloudSession.Proofs.Text.Base64
import CloudSession.Proofs.Text.Utf8
import CloudSession.Proofs.Url.Split
import CloudSession.VCloud.Login

/-! # Basic credentials, read back

Who is handed basic credentials finds the user and the password in them, as long as there is no
colon in the name of the user. The header is one line of ASCII.
-/

namespace CloudSession.VCloud

/-- The user and the password in front of and behind the first colon of a text. -/
def atColon? (s : String) : Option (String × String) :=
  match Url.cut ':' s.toList with
  | (user, some password) => some (String.ofList user, String.ofList password)
  | (_, none) => none

/-- The user and the password that basic credentials name, if they are written as such. -/
def readBasic? (header : String) : Option (String × String) := do
  let code ← "Basic ".toList.isPrefixOf? header.toList
  let bytes ← Text.Base64.decode? code
  let both ← Text.ofUtf8? bytes
  atColon? both

theorem atColon?_eq {user : String} (colonless : ':' ∉ user.toList) (password : String) :
    atColon? (user ++ ":" ++ password) = some (user, password) := by
  have whole : (user ++ ":" ++ password).toList = user.toList ++ ':' :: password.toList := by
    simp
  rw [atColon?, whole, Url.cut_at_mark colonless]
  simp

/-- What follows the name of the scheme. -/
def basicCode (user password : String) : List Char :=
  Text.Base64.encode (Text.utf8 (user ++ ":" ++ password))

theorem basicAuth_eq (user password : String) :
    basicAuth (.text user) (.text password) = "Basic " ++ String.ofList (basicCode user password) :=
  rfl

theorem readBasic?_basicAuth (user password : String) :
    readBasic? (basicAuth (.text user) (.text password)) = atColon? (user ++ ":" ++ password) := by
  have code : "Basic ".toList.isPrefixOf? (basicAuth (.text user) (.text password)).toList =
      some (basicCode user password) := by
    simp [basicAuth_eq, List.isPrefixOf?]
  have bytes := Text.Base64.decode?_eq_some_iff.mpr (rfl : basicCode user password = _)
  have both := Text.ofUtf8?_eq_some_iff.mpr (rfl : Text.utf8 (user ++ ":" ++ password) = _)
  simp only [readBasic?, code, bytes, both, Option.bind_eq_bind, Option.bind_some]

/-- Basic credentials are the name of the scheme and one run of base64 behind it, and whoever takes
that apart finds the user and the password, if there is no colon in the name of the user. So there
are no other such credentials that are written alike. -/
theorem basicAuth_reads_back (user password : String) :
    (∃ code, basicAuth (.text user) (.text password) = "Basic " ++ String.ofList code ∧
      Text.Base64.decode? code = some (Text.utf8 (user ++ ":" ++ password)) ∧
      ∀ c ∈ code, c ∈ '=' :: Text.Base64.alphabet ∧ c.toNat < 128 ∧ c ≠ '\n' ∧ c ≠ '\r') ∧
    (':' ∉ user.toList →
      readBasic? (basicAuth (.text user) (.text password)) = some (user, password) ∧
      ∀ user' password' : String, ':' ∉ user'.toList →
        basicAuth (.text user') (.text password') = basicAuth (.text user) (.text password) →
        user' = user ∧ password' = password) := by
  refine ⟨⟨basicCode user password, basicAuth_eq user password,
    Text.Base64.decode?_encode _, fun c within => ?_⟩, fun colonless => ?_⟩
  · have letter := Text.Base64.mem_encode _ c within
    exact ⟨letter, Text.Base64.plain_of_mem letter⟩
  · have reads := (readBasic?_basicAuth user password).trans (atColon?_eq colonless password)
    refine ⟨reads, fun user' password' colonless' alike => ?_⟩
    have reads' := (readBasic?_basicAuth user' password').trans (atColon?_eq colonless' password')
    rw [alike, reads] at reads'
    cases reads'
    exact ⟨rfl, rfl⟩

/-- Names and passwords beyond ASCII, one to four bytes a character, and colons in the password. -/
theorem basicAuth_reads_back_with_colons :
    ':' ∉ "jürgen€".toList ∧
      basicAuth (.text "jürgen€") (.text ":😀:") = "Basic asO8cmdlbuKCrDo68J+YgDo=" ∧
      readBasic? "Basic asO8cmdlbuKCrDo68J+YgDo=" = some ("jürgen€", ":😀:") := by
  have colonless : ':' ∉ "jürgen€".toList := by decide +kernel
  have written :
      basicAuth (.text "jürgen€") (.text ":😀:") = "Basic asO8cmdlbuKCrDo68J+YgDo=" := by
    decide +kernel
  refine ⟨colonless, written, ?_⟩
  rw [← written]
  exact ((basicAuth_reads_back "jürgen€" ":😀:").2 colonless).1

end CloudSession.VCloud
