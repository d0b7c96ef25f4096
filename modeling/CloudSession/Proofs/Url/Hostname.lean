import CloudSession.Proofs.Url.Split
import CloudSession.Url.Hostname

/-! # A url with its host named in full

A url whose host is looked up keeps its scheme, its port and its path, and gets the name of its
host. What else it says is left out: a query, a fragment, and who the authority names before the
host.
-/

namespace CloudSession.Url

/-! ## Ports in decimal -/

theorem mem_of_isDigit {c : Char} (digit : c.isDigit = true) :
    c ∈ ['0', '1', '2', '3', '4', '5', '6', '7', '8', '9'] := by
  have range : ('0' ≤ c && c ≤ '9') = true := digit
  rw [Bool.and_eq_true, decide_eq_true_eq, decide_eq_true_eq] at range
  have least : 48 ≤ c.toNat := range.1
  have most : c.toNat ≤ 57 := range.2
  rw [← Char.ofNat_toNat c]
  interval_cases c.toNat <;> decide

theorem digit?_of_isDigit {c : Char} (digit : c.isDigit = true) :
    Ipv4.digit? 10 c = some (c.toNat - '0'.toNat) := by
  have range : ('0' ≤ c && c ≤ '9') = true := digit
  have few : ∀ d ∈ ['0', '1', '2', '3', '4', '5', '6', '7', '8', '9'],
      d.toNat - '0'.toNat < 10 := by
    simp
  rw [Ipv4.digit?, if_pos range, Option.filter_some,
    if_pos (decide_eq_true (few c (mem_of_isDigit digit)))]

theorem digits_of_isDigit {cs : List Char} (digits : ∀ c ∈ cs, c.isDigit = true) (acc : Nat) :
    Ipv4.digits 10 acc cs = (Nat.ofDigitChars 10 cs acc, []) := by
  induction cs generalizing acc with
  | nil => rfl
  | cons c cs ih =>
    rw [Ipv4.digits, digit?_of_isDigit (digits c List.mem_cons_self)]
    simp only
    rw [ih fun d within => digits d (List.mem_cons_of_mem c within), Nat.ofDigitChars_cons,
      Nat.mul_comm]

/-- A number that is written in decimal is read back. -/
theorem digits_toDigits (n : Nat) : (Ipv4.digits 10 0 (Nat.toDigits 10 n)).1 = n := by
  rw [digits_of_isDigit fun c within => Nat.isDigit_of_mem_toDigits (by decide) (by decide) within,
    Nat.ofDigitChars_ten_toDigits]

/-- A port as it is written behind a host. -/
def portPart : Option Nat → List Char
  | none => []
  | some n => ':' :: Nat.toDigits 10 n

/-! ## Names of hosts -/

/-- Characters that are marks in an authority or of what follows it, or that are dropped. -/
def hostMarks : List Char := ['/', '?', '#', '@', ':', '[', ']', '%', '\t', '\r', '\n']

/-- A name that stands for itself in a url. -/
def IsHostName (name : String) : Prop :=
  name ≠ "" ∧ ∀ c ∈ name.toList, c ∉ hostMarks ∧ c.toNat ∉ disguises

/-- Two urls that differ in nothing but their hosts. -/
structure Parts.SameButHost (p q : Parts) : Prop where
  scheme : p.scheme = q.scheme
  port : p.port? = q.port?
  path : p.path = q.path
  query : p.query = q.query
  fragment : p.fragment = q.fragment
  user : p.userInfo? = q.userInfo?

variable {name : String} {port : Option Nat} {p : Parts}

theorem digit_of_mem_portPart {c : Char} (within : c ∈ portPart port) :
    c = ':' ∨ c.isDigit = true := by
  cases port with
  | none => cases within
  | some n =>
    exact (List.mem_cons.mp within).imp_right (Nat.isDigit_of_mem_toDigits (by decide) (by decide))

theorem IsHostName.isBareAuthority (plain : IsHostName name) (port : Option Nat) :
    IsBareAuthority (name.toList ++ portPart port) := by
  have each : ∀ c ∈ name.toList ++ portPart port,
      isInside c = true ∧ isDropped c = false ∧ c ≠ '[' ∧ c ≠ ']' ∧ c.toNat ∉ disguises := by
    intro c within
    rcases List.mem_append.mp within with within | within
    · obtain ⟨unmarked, undisguised⟩ := plain.2 c within
      simp only [hostMarks, List.mem_cons, List.not_mem_nil, or_false, not_or] at unmarked
      simp [isInside, isDropped, unmarked, undisguised]
    · have apart : ∀ d ∈ [':', '0', '1', '2', '3', '4', '5', '6', '7', '8', '9'],
          isInside d = true ∧ isDropped d = false ∧ d ≠ '[' ∧ d ≠ ']' ∧ d.toNat ∉ disguises :=
        List.forall_iff_forall_mem.mp (by decide)
      exact apart c (List.mem_cons.mpr ((digit_of_mem_portPart within).imp_right mem_of_isDigit))
  exact ⟨fun c within => (each c within).1, fun c within => (each c within).2.1,
    ⟨fun within => (each _ within).2.2.1 rfl, fun within => (each _ within).2.2.2.1 rfl⟩,
    fun c within => (each c within).2.2.2.2⟩

theorem IsHostName.not_mem (plain : IsHostName name) {c : Char} (mark : c ∈ hostMarks) :
    c ∉ name.toList := fun within => (plain.2 c within).1 mark

theorem cutLast_portPart (plain : IsHostName name) :
    cutLast '@' (name.toList ++ portPart port) = (none, name.toList ++ portPart port) := by
  refine cutLast_of_unmarked fun within => ?_
  rcases List.mem_append.mp within with within | within
  · exact plain.not_mem (by decide) within
  · rcases digit_of_mem_portPart within with same | digit
    · cases same
    · cases digit

/-- Host and port of a name with a port behind it. -/
theorem hostAndPort_eq (plain : IsHostName name)
    (authority : p.authority.toList = name.toList ++ portPart port) :
    p.hostAndPort = (name.toList, (portPart port).tail) := by
  have unopened : cut '[' (name.toList ++ portPart port) = (name.toList ++ portPart port, none) :=
    cut_of_unmarked (plain.isBareAuthority port).bracketless.1
  rw [Parts.hostAndPort, authority, cutLast_portPart plain]
  simp only [unopened]
  cases port with
  | none =>
    rw [portPart, List.append_nil, cut_of_unmarked (plain.not_mem (by decide))]
    rfl
  | some n =>
    rw [portPart, cut_at_mark (plain.not_mem (by decide))]
    rfl

theorem hostname?_eq (plain : IsHostName name)
    (authority : p.authority.toList = name.toList ++ portPart port) :
    p.hostname? = some (Text.lower name) := by
  rw [Parts.hostname?, hostAndPort_eq plain authority]
  have zoneless : '%' ∉ name.toList := plain.not_mem (by decide)
  have named : name.toList ≠ [] := by simpa using plain.1
  split
  · rename_i nothing
    exact absurd nothing named
  · rw [Text.takeWhile_eq_self_iff.mpr zoneless, Text.dropWhile_eq_nil zoneless]
    show some (Text.lower (String.ofList name.toList) ++ "") = _
    rw [String.ofList_toList, String.append_empty]

theorem userInfo?_eq (plain : IsHostName name)
    (authority : p.authority.toList = name.toList ++ portPart port) : p.userInfo? = none := by
  rw [Parts.userInfo?, authority, cutLast_portPart plain]
  rfl

/-- The port of an authority that has something behind the colon of its host. -/
theorem port?_of_ne_nil {cs : List Char} (behind : p.hostAndPort.2 = cs) (written : cs ≠ []) :
    p.port? =
      let n := (Ipv4.digits 10 0 cs).1
      if cs.all Char.isDigit && cs.length ≤ Text.mostDigits && n ≤ 65535 then .ok (some n)
      else .error .port := by
  rw [Parts.port?, behind]
  cases cs with
  | nil => exact absurd rfl written
  | cons c cs => rfl

theorem port?_eq (plain : IsHostName name)
    (authority : p.authority.toList = name.toList ++ portPart port)
    (bounded : ∀ n, port = some n → n ≤ 65535) : p.port? = .ok port := by
  have both := hostAndPort_eq plain authority
  cases port with
  | none =>
    rw [Parts.port?, both]
    rfl
  | some n =>
    have few := bounded n rfl
    have five : (Nat.toDigits 10 n).length ≤ 5 :=
      (Nat.length_toDigits_le_iff (by decide) (by decide)).mpr (by omega)
    have short : (Nat.toDigits 10 n).length ≤ Text.mostDigits := five.trans (by decide)
    have digits : (Nat.toDigits 10 n).all Char.isDigit = true :=
      List.all_eq_true.mpr fun c => Nat.isDigit_of_mem_toDigits (by decide) (by decide)
    have behind : p.hostAndPort.2 = Nat.toDigits 10 n := congrArg Prod.snd both
    rw [port?_of_ne_nil behind Nat.toDigits_ne_nil]
    simp only [digits_toDigits, digits, short, few, decide_true, Bool.and_self, if_true]

/-! ## Looking up the host -/

section

variable {names : Names} {url : String} {parts : Parts}

theorem le_of_port? {n : Nat} (ported : p.port? = .ok (some n)) : n ≤ 65535 := by
  unfold Parts.port? at ported
  split at ported
  · cases ported
  · dsimp only at ported
    split_ifs at ported with sound
    cases ported
    simp only [Bool.and_eq_true, decide_eq_true_eq] at sound
    exact sound.2

/-- Only a url with an authority has a host. -/
theorem authority_ne_empty (known : names.find p.hostname? = .ok name) : p.authority ≠ "" := by
  intro nothing
  have hostless : p.hostname? = none := by
    rw [Parts.hostname?, Parts.hostAndPort, nothing]
    rfl
  rw [hostless] at known
  cases known

/-- What a url becomes when its host is found. -/
theorem withHostname_of_known (splits : split url = .ok parts)
    (host : isAddress parts.hostname? = .ok false)
    (known : names.find parts.hostname? = .ok name) (ported : parts.port? = .ok port) :
    withHostname names url = .ok (String.ofList (parts.scheme.toList ++ ':' :: '/' :: '/' ::
      (name.toList ++ portPart port ++ parts.path.toList))) := by
  rw [withHostname, splits]
  simp only [host, known, ported]
  cases port with
  | none => simp [← String.toList_inj, portPart]
  | some n => simp [← String.toList_inj, portPart, Decimal.text]

end

/-- Where a host is found, scheme, port and path stay as they are and the host is the one found, in
small letters as hosts are told. Query, fragment and user are left out, so that nothing but the
host is replaced exactly if there was none of them. -/
theorem withHostname_keeps_address (names : Names) {url name : String} {parts : Parts}
    {port : Option Nat} (splits : split url = .ok parts) (schemed : parts.scheme ≠ "")
    (host : isAddress parts.hostname? = .ok false) (ported : parts.port? = .ok port)
    (known : names.find parts.hostname? = .ok name) (plain : IsHostName name) :
    ∃ named after, withHostname names url = .ok named ∧ split named = .ok after ∧
      after.hostname? = some (Text.lower name) ∧
      after.scheme = parts.scheme ∧ after.port? = parts.port? ∧ after.path = parts.path ∧
      after.query = "" ∧ after.fragment = "" ∧ after.userInfo? = none ∧
      (after.SameButHost parts ↔
        parts.query = "" ∧ parts.fragment = "" ∧ parts.userInfo? = none) := by
  obtain ⟨small, behind⟩ := isScheme_isPath_of_split splits
  have bounded : ∀ n, port = some n → n ≤ 65535 := fun n same => le_of_port? (same ▸ ported)
  let after : Parts :=
    ⟨parts.scheme, String.ofList (name.toList ++ portPart port), parts.path, "", ""⟩
  have authority : after.authority.toList = name.toList ++ portPart port := String.toList_ofList
  have again := split_put_together (small schemed) (plain.isBareAuthority port)
    (behind (authority_ne_empty known))
  rw [String.ofList_toList, String.ofList_toList] at again
  have sameScheme : after.scheme = parts.scheme := rfl
  have samePort : after.port? = parts.port? := (port?_eq plain authority bounded).trans ported.symm
  have samePath : after.path = parts.path := rfl
  have userless : after.userInfo? = none := userInfo?_eq plain authority
  -- The new url has none of what is left out, so it is alike in it just if the old one has none.
  refine ⟨_, after, withHostname_of_known splits host known ported, again,
    hostname?_eq plain authority, sameScheme, samePort, samePath, rfl, rfl, userless,
    fun same => ?_, fun ⟨queryless, fragmentless, nobody⟩ => ?_⟩
  · exact ⟨same.query.symm, same.fragment.symm, same.user.symm.trans userless⟩
  · exact ⟨sameScheme, samePort, samePath, queryless.symm, fragmentless.symm,
      userless.trans nobody.symm⟩

def apiNames : Names := [("api", .ok "api.example.com")]

theorem isHostName_api : IsHostName "api.example.com" :=
  ⟨by decide +kernel, List.forall_iff_forall_mem.mp (by decide +kernel)⟩

/-- The parts of a url that names no user and asks for nothing. -/
def bareParts : Parts := ⟨"https", "Api:08443", "//v1/;a=b", "", ""⟩

/-- The port is written anew, and a path with empty parts stays as it is. -/
theorem withHostname_keeps_address_of_bareParts :
    split "https://Api:08443//v1/;a=b" = .ok bareParts ∧ bareParts.scheme ≠ "" ∧
      isAddress bareParts.hostname? = .ok false ∧ bareParts.port? = .ok (some 8443) ∧
      apiNames.find bareParts.hostname? = .ok "api.example.com" ∧ IsHostName "api.example.com" ∧
      ∃ named after, withHostname apiNames "https://Api:08443//v1/;a=b" = .ok named ∧
        split named = .ok after ∧ after.hostname? = some "api.example.com" ∧
        after.SameButHost bareParts := by
  have splits : split "https://Api:08443//v1/;a=b" = .ok bareParts := by cbv
  have schemed : bareParts.scheme ≠ "" := by decide
  have host : isAddress bareParts.hostname? = .ok false := by cbv
  have ported : bareParts.port? = .ok (some 8443) := by cbv
  have known : apiNames.find bareParts.hostname? = .ok "api.example.com" := by cbv
  obtain ⟨named, after, found, again, hostname, -, -, -, -, -, -, same⟩ :=
    withHostname_keeps_address apiNames splits schemed host ported known isHostName_api
  have small : Text.lower "api.example.com" = "api.example.com" := by cbv
  have userless : bareParts.userInfo? = none := by cbv
  exact ⟨splits, schemed, host, ported, known, isHostName_api, named, after, found, again,
    small ▸ hostname, same.mpr ⟨rfl, rfl, userless⟩⟩

/-- It is not so that nothing but the host is replaced. -/
theorem not_withHostname_same_but_host :
    ¬ ∀ (names : Names) (url name : String) (parts : Parts) (port : Option Nat),
      split url = .ok parts → parts.scheme ≠ "" → isAddress parts.hostname? = .ok false →
      parts.port? = .ok port → names.find parts.hostname? = .ok name → IsHostName name →
      ∃ named after, withHostname names url = .ok named ∧ split named = .ok after ∧
        after.SameButHost parts := by
  intro claimed
  obtain ⟨named, after, found, again, same⟩ :=
    claimed apiNames "https://jsmith:pw@api:8443/v1?tenant=7#top" "api.example.com"
      ⟨"https", "jsmith:pw@api:8443", "/v1", "tenant=7", "top"⟩ (some 8443) (by cbv) (by decide)
      (by cbv) (by cbv) (by cbv) isHostName_api
  have lost : withHostname apiNames "https://jsmith:pw@api:8443/v1?tenant=7#top" =
      .ok "https://api.example.com:8443/v1" := by cbv
  obtain rfl := Except.ok.inj (lost.symm.trans found)
  have short : split "https://api.example.com:8443/v1" =
      .ok ⟨"https", "api.example.com:8443", "/v1", "", ""⟩ := by cbv
  obtain rfl := Except.ok.inj (short.symm.trans again)
  exact absurd same.query (by decide)

end CloudSession.Url
