import CloudSession.Http.Retry

/-! # Headers by name

Once a header is set it is found, whatever the case it is looked for in, as long as the names met
on the way are texts. A request with a token is therefore never taken for a login.
-/

namespace CloudSession

namespace Headers

variable {headers : Headers}

/-- All names are texts. -/
def Named (headers : Headers) : Prop := ∀ entry ∈ headers, ∃ name, entry.1 = .text name

theorem text_beq_text (a b : String) : (Value.text a == Value.text b) = (a == b) := rfl

theorem Named.put (named : headers.Named) (name : String) (value : Value) :
    Named (Entries.put (.text name) value headers) := by
  induction headers with
  | nil =>
    intro entry member
    obtain rfl := List.mem_singleton.mp member
    exact ⟨name, rfl⟩
  | cons head rest ih =>
    obtain ⟨own, others⟩ := List.forall_mem_cons.mp named
    simp only [Entries.put]
    split
    · exact List.forall_mem_cons.mpr ⟨own, others⟩
    · exact List.forall_mem_cons.mpr ⟨own, ih others⟩

theorem has?_text (headers : Headers) (name : String) :
    headers.has? (.text name) = headers.seek? (Text.lower name) := by
  cases headers <;> rfl

theorem Named.exists_has? (named : headers.Named) (name : String) :
    ∃ found, headers.has? (.text name) = some found := by
  rw [has?_text]
  induction headers with
  | nil => exact ⟨false, rfl⟩
  | cons head rest ih =>
    obtain ⟨⟨own, text⟩, others⟩ := List.forall_mem_cons.mp named
    obtain ⟨key, value⟩ := head
    obtain rfl : key = .text own := text
    simp only [seek?]
    split
    · exact ⟨true, rfl⟩
    · exact ih others

/-- A header of a name is there, in whatever case. -/
def Mentions (headers : Headers) (name : String) : Prop :=
  ∃ own value, (.text own, value) ∈ headers ∧ Text.lower own = Text.lower name

theorem Named.has?_eq_some_true_iff (named : headers.Named) (name : String) :
    headers.has? (.text name) = some true ↔ headers.Mentions name := by
  rw [has?_text]
  induction headers with
  | nil => simp [seek?, Mentions]
  | cons head rest ih =>
    obtain ⟨⟨own, text⟩, others⟩ := List.forall_mem_cons.mp named
    obtain ⟨key, value⟩ := head
    obtain rfl : key = .text own := text
    by_cases same : Text.lower own = Text.lower name
    · simp only [seek?, beq_iff_eq.mpr same, if_true, true_iff]
      exact ⟨own, value, List.mem_cons_self, same⟩
    · simp only [seek?, beq_false_of_ne same, Bool.false_eq_true, if_false, ih others]
      constructor
      · rintro ⟨found, there, member, alike⟩
        exact ⟨found, there, List.mem_cons_of_mem _ member, alike⟩
      · rintro ⟨found, there, member, alike⟩
        rcases List.mem_cons.mp member with head | tail
        · cases head
          exact absurd alike same
        · exact ⟨found, there, tail, alike⟩

theorem Named.has?_of_get? (named : headers.Named) {name : String} {value : Value}
    (there : Entries.get? headers (.text name) = some value) :
    headers.has? (.text name) = some true := by
  rw [has?_text]
  induction headers with
  | nil => cases there
  | cons head rest ih =>
    obtain ⟨⟨own, text⟩, others⟩ := List.forall_mem_cons.mp named
    obtain ⟨key, old⟩ := head
    obtain rfl : key = .text own := text
    rw [Entries.get?_cons, text_beq_text] at there
    by_cases same : name = own
    · simp [same, seek?]
    · have other : (name == own) = false := beq_false_of_ne same
      simp only [other, Bool.false_eq_true, if_false] at there
      simp only [seek?]
      split
      · rfl
      · exact ih others there

theorem get?_put (headers : Headers) (name : String) (value : Value) :
    Entries.get? (Entries.put (.text name) value headers) (.text name) = some value :=
  Entries.get?_put_self headers value (beq_self_eq_true name)

theorem Named.has?_put (named : headers.Named) (name : String) (value : Value) :
    has? (Entries.put (.text name) value headers) (.text name) = some true :=
  (named.put name value).has?_of_get? (get?_put headers name value)

end Headers

theorem Renewal.isLogin?_eq_some_true_iff {renewal : Renewal} {request : Request} :
    renewal.isLogin? request = some true ↔
      request.headers.has? renewal.userHeader = some true ∧
      request.headers.has? renewal.keyHeader = some true ∧
      request.headers.has? renewal.tokenHeader = some false := by
  rw [isLogin?]
  rcases request.headers.has? renewal.userHeader with _ | _ | _ <;>
    rcases request.headers.has? renewal.keyHeader with _ | _ | _ <;>
    rcases request.headers.has? renewal.tokenHeader with _ | _ | _ <;>
    simp

/-- A login mentions a user and a key and no token. -/
theorem Renewal.isLogin?_of_named {renewal : Renewal} {user key token : String}
    (users : renewal.userHeader = .text user) (keys : renewal.keyHeader = .text key)
    (tokens : renewal.tokenHeader = .text token) {request : Request}
    (named : request.headers.Named) :
    ∃ login, renewal.isLogin? request = some login ∧ (login = true ↔
      request.headers.Mentions user ∧ request.headers.Mentions key ∧
        ¬ request.headers.Mentions token) := by
  have user_found := named.has?_eq_some_true_iff user
  have key_found := named.has?_eq_some_true_iff key
  have token_found := named.has?_eq_some_true_iff token
  obtain ⟨hasUser, users_told⟩ := named.exists_has? user
  obtain ⟨hasKey, keys_told⟩ := named.exists_has? key
  obtain ⟨hasToken, tokens_told⟩ := named.exists_has? token
  rw [users_told, Option.some.injEq] at user_found
  rw [keys_told, Option.some.injEq] at key_found
  rw [tokens_told, Option.some.injEq] at token_found
  refine ⟨hasUser && hasKey && !hasToken, ?_, ?_⟩
  · simp only [isLogin?, users, keys, tokens, users_told, keys_told, tokens_told]
    cases hasUser <;> cases hasKey <;> rfl
  · simp only [← user_found, ← key_found, ← token_found, Bool.and_eq_true, Bool.not_eq_true',
      Bool.not_eq_true, and_assoc]

/-- A request that carries a token is no login. -/
theorem Renewal.isLogin?_withHeader {renewal : Renewal} {user key token : String}
    (users : renewal.userHeader = .text user) (keys : renewal.keyHeader = .text key)
    (tokens : renewal.tokenHeader = .text token) {request : Request}
    (named : request.headers.Named) (value : Value) :
    renewal.isLogin? (request.withHeader (.text token) value) = some false := by
  have names := named.put token value
  obtain ⟨hasUser, user_found⟩ := names.exists_has? user
  obtain ⟨hasKey, key_found⟩ := names.exists_has? key
  have token_found := named.has?_put token value
  simp only [isLogin?, users, keys, tokens, Request.withHeader, user_found, key_found, token_found]
  cases hasUser <;> cases hasKey <;> rfl

end CloudSession
