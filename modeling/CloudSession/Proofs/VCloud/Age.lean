import CloudSession.Proofs.Supplier.Ensuring
import CloudSession.VCloud.Caches

/-! # Age of what the caches hand out

A session is handed out as long as it is fresh, and so is what is read off it on the spot. The map
of organisations is a copy that is dated anew: it is handed out as long as the copy is fresh,
however old the session was when it was copied.
-/

namespace CloudSession.VCloud.Caches

open Act

variable {σ : Type}

/-- What caches go through, one thing after the other. -/
inductive Event where
  | ask (operation : Operation)
  | pass (seconds : Float)

def happen (c : Caches σ) : Event → Act σ Unit
  | .ask operation => do
    let _ ← c.perform operation
  | .pass seconds => Act.pass seconds

/-- The world behind some events, however each of them ends. -/
def after (c : Caches σ) (events : List Event) (w : World σ) : World σ :=
  events.foldl (fun w event => ((c.happen event).play w).2) w

/-- Books of the logins, in the state that the caches are kept in: each login that succeeds is
entered with its session and its time, and nothing else is. A login leaves the caches as they are,
or has them forget. -/
structure Books (c : Caches σ) where
  entries : σ → List (Session × Float)
  entered : ∀ {w session w'}, c.login.play w = (.ok session, w') →
    entries w'.own = (session, w'.clock) :: entries w.own
  refused : ∀ {w i w'}, c.login.play w = (.error i, w') → entries w'.own = entries w.own
  forgets_session : Keeps (Supplier.Forgets c.sessions.cell) c.login
  forgets_orgs : Keeps (Supplier.Forgets c.orgMaps.cell) c.login
  session_apart : ∀ cell state,
    c.sessions.cell.read (c.orgMaps.cell.write cell state) = c.sessions.cell.read state := by
      intros; rfl
  orgs_apart : ∀ cell state,
    c.orgMaps.cell.read (c.sessions.cell.write cell state) = c.orgMaps.cell.read state := by
      intros; rfl
  entries_session : ∀ cell state, entries (c.sessions.cell.write cell state) = entries state := by
    intros; rfl
  entries_orgs : ∀ cell state, entries (c.orgMaps.cell.write cell state) = entries state := by
    intros; rfl
  entries_latch : ∀ latch state, entries (c.sessions.latch.write latch state) = entries state := by
    intros; rfl

namespace Books

variable {c : Caches σ} (books : c.Books)

/-- A session of a recent login. -/
def Logged (w : World σ) (session : Session) : Prop :=
  ∃ time, (session, time) ∈ books.entries w.own ∧ Supplier.Recent c.sessions.ttl w.clock time

/-- The directory of a session whose login was recent at the time that the copy is dated with. -/
def Copied (state : σ) (orgs : Fields Value) (copied : Float) : Prop :=
  ∃ session time, (session, time) ∈ books.entries state ∧ orgs = session.directory ∧
    Supplier.Recent c.sessions.ttl copied time

/-- What is remembered is as the books tell. -/
structure Sound (state : σ) : Prop where
  session : ∀ session time, (c.sessions.cell.read state).memo = some (session, time) →
    (session, time) ∈ books.entries state
  orgs : ∀ orgs copied, (c.orgMaps.cell.read state).memo = some (orgs, copied) →
    books.Copied state orgs copied

/-- What an answer tells is as old as it may be. -/
def Dated (w : World σ) : Operation → Answer → Prop
  | .session, .session session => books.Logged w session
  | .token, .value token => ∃ session, books.Logged w session ∧ tokenIn session = .ok token
  | .orgListUri, .value (.text uri) =>
    ∃ session, books.Logged w session ∧ orgListUriIn session = .ok uri
  | .orgs, .value (.pairs orgs) =>
    ∃ copied, books.Copied w.own orgs copied ∧ Supplier.Recent c.orgMaps.ttl w.clock copied
  | .invalidate, .value .null => True
  | _, _ => False

variable {books}

/-! ## What is remembered -/

theorem Copied.mono {state state' : σ} {orgs : Fields Value} {time : Float}
    (copied : books.Copied state orgs time)
    (entries : books.entries state ⊆ books.entries state') : books.Copied state' orgs time := by
  obtain ⟨session, landed, entered, told⟩ := copied
  exact ⟨session, landed, entries entered, told⟩

/-- Nothing is remembered that was not remembered before. -/
theorem Sound.of_forgets {state state' : σ} (sound : books.Sound state)
    (session : Supplier.Forgets c.sessions.cell state state')
    (orgs : Supplier.Forgets c.orgMaps.cell state state')
    (entries : books.entries state ⊆ books.entries state') : books.Sound state' where
  session := by
    intro value time memo
    rcases session with none | ⟨same, -⟩
    · rw [none] at memo
      cases memo
    · exact entries (sound.session value time (same.symm.trans memo))
  orgs := by
    intro value time memo
    rcases orgs with none | ⟨same, -⟩
    · rw [none] at memo
      cases memo
    · exact (sound.orgs value time (same.symm.trans memo)).mono entries

/-- A cell of the session may remember what was entered. -/
theorem Sound.of_session_cell {state : σ} (sound : books.Sound state) {cell : Cell Session}
    (entered : ∀ session time, cell.memo = some (session, time) →
      (session, time) ∈ books.entries state) : books.Sound (c.sessions.cell.write cell state) where
  session := by
    intro session time memo
    rw [Slot.read_write] at memo
    rw [books.entries_session]
    exact entered session time memo
  orgs := by
    intro orgs copied memo
    rw [books.orgs_apart] at memo
    rw [Copied, books.entries_session]
    exact sound.orgs orgs copied memo

/-- A cell of the map may remember what was copied. -/
theorem Sound.of_orgs_cell {state : σ} (sound : books.Sound state) {cell : Cell (Fields Value)}
    (known : ∀ orgs copied, cell.memo = some (orgs, copied) → books.Copied state orgs copied) :
    books.Sound (c.orgMaps.cell.write cell state) where
  session := by
    intro session time memo
    rw [books.session_apart] at memo
    rw [books.entries_orgs]
    exact sound.session session time memo
  orgs := by
    intro orgs copied memo
    rw [Slot.read_write] at memo
    rw [Copied, books.entries_orgs]
    exact known orgs copied memo

theorem Sound.of_latch {state : σ} (sound : books.Sound state) (latch : Latch) :
    books.Sound (c.sessions.latch.write latch state) := by
  refine sound.of_forgets (.inr ?_) (.inr ?_) ?_
  · rw [c.sessions.cell_latch]
    exact ⟨rfl, rfl⟩
  · rw [← c.same_latch, c.orgMaps.cell_latch]
    exact ⟨rfl, rfl⟩
  · rw [books.entries_latch]
    exact List.Subset.refl _

/-! ## Answers -/

theorem ensures_login :
    Act.Ensures (fun w => books.Sound w.own) c.login
      (fun session w => books.Sound w.own ∧ (session, w.clock) ∈ books.entries w.own)
      (fun w => books.Sound w.own) := by
  intro w sound
  have session := books.forgets_session w
  have orgs := books.forgets_orgs w
  cases played : c.login.play w with
  | mk outcome w' =>
    rw [played] at session orgs
    have sound' (entries : books.entries w.own ⊆ books.entries w'.own) : books.Sound w'.own :=
      sound.of_forgets session orgs entries
    cases outcome with
    | error i => exact sound' (books.refused played ▸ List.Subset.refl _)
    | ok session =>
      have entered := books.entered played
      refine ⟨sound' ?_, ?_⟩ <;> rw [entered]
      · exact List.subset_cons_self _ _
      · exact List.mem_cons_self

theorem ensures_session :
    Act.Ensures (fun w => books.Sound w.own) c.session
      (fun session w => books.Sound w.own ∧ books.Logged w session)
      (fun w => books.Sound w.own) := by
  refine Supplier.ensures_recent (s := c.sessions)
    (D := fun session time state => (session, time) ∈ books.entries state)
    (fun sound => sound.session _ _) (fun sound => sound.of_session_cell)
    (fun latch sound => sound.of_latch latch) ?_ ensures_login none
  intro state session time cell entered
  rwa [books.entries_session]

theorem ensures_orgs :
    Act.Ensures (fun w => books.Sound w.own) c.orgs
      (fun orgs w => books.Sound w.own ∧
        ∃ copied, books.Copied w.own orgs copied ∧ Supplier.Recent c.orgMaps.ttl w.clock copied)
      (fun w => books.Sound w.own) := by
  refine Supplier.ensures_recent (s := c.orgMaps)
    (D := fun orgs copied state => books.Copied state orgs copied)
    (fun sound => sound.orgs _ _) (fun sound => sound.of_orgs_cell) ?_ ?_ ?_ none
  · intro state latch sound
    rw [c.same_latch]
    exact sound.of_latch latch
  · exact fun cell copied => copied.mono (books.entries_orgs cell _ ▸ List.Subset.refl _)
  · -- The copy is dated with the time at which the session is at hand.
    refine ensures_session.bind fun session => .pure ?_
    rintro w ⟨sound, time, entered, recent⟩
    exact ⟨sound, session, time, entered, rfl, recent⟩

/-- What is read off a session is as old as the session. -/
theorem ensures_read {α : Type} (read : Session → Except FaultHead α) :
    Act.Ensures (fun w => books.Sound w.own) (do Act.grant (read (← c.session)))
      (fun value w => books.Sound w.own ∧
        ∃ session, books.Logged w session ∧ read session = .ok value)
      (fun w => books.Sound w.own) := by
  refine ensures_session.bind fun session => .grant ?_ fun _ _ => And.left
  exact fun value w known ⟨sound, logged⟩ => ⟨sound, session, logged, known⟩

theorem ensures_perform (operation : Operation) :
    Act.Ensures (fun w => books.Sound w.own) (c.perform operation)
      (fun answer w => books.Sound w.own ∧ books.Dated w operation answer)
      (fun w => books.Sound w.own) := by
  cases operation with
  | session => exact ensures_session.bind fun session => .pure fun _ => id
  | token => exact (ensures_read tokenIn).bind fun token => .pure fun _ => id
  | orgListUri => exact (ensures_read orgListUriIn).bind fun uri => .pure fun _ => id
  | orgs => exact ensures_orgs.bind fun orgs => .pure fun _ => id
  | invalidate =>
    intro w sound
    have forgotten : books.Sound
        (c.sessions.cell.write (c.sessions.cell.read w.own).invalidate w.own) :=
      sound.of_session_cell fun _ _ memo => nomatch memo
    exact ⟨forgotten.of_orgs_cell fun _ _ memo => (nomatch memo), trivial⟩

theorem leads_happen (event : Event) :
    Leads (Retains fun w => books.Sound w.own) (c.happen event) := by
  cases event with
  | ask operation =>
    refine .bind ?_ fun _ => .pure _
    exact (ensures_perform operation).leads (fun _ _ => And.left) fun _ => id
  | pass seconds => exact fun _ => id

theorem Sound.after {w : World σ} (sound : books.Sound w.own) (events : List Event) :
    books.Sound (c.after events w).own := by
  induction events generalizing w with
  | nil => exact sound
  | cons event events ih => exact ih (leads_happen event w sound)

end Books

/-! ## Caches on their own -/

/-- A state that holds caches and the books of their logins. How logins end is given by number. -/
structure Account where
  outcomes : Nat → Except FaultPlan (Value × Fields Value)
  count : Nat := 0
  entries : List (Session × Float) := []
  latch : Latch := {}
  sessions : Cell Session := {}
  orgMaps : Cell (Fields Value) := {}

namespace Account

def latchSlot : Slot Account Latch where
  read := latch
  write l a := { a with latch := l }

def sessionSlot : Slot Account (Cell Session) where
  read := sessions
  write cell a := { a with sessions := cell }

def orgMapSlot : Slot Account (Cell (Fields Value)) where
  read := orgMaps
  write cell a := { a with orgMaps := cell }

/-- A login that takes no time. -/
def login : Act Account Session := do
  let account ← Act.own
  Act.modifyOwn fun a => { a with count := a.count + 1 }
  match account.outcomes account.count with
  | .error plan => Act.failPlan plan
  | .ok (token, directory) =>
    let time ← Act.now
    let session : Session := ⟨token, directory, .real time⟩
    Act.modifyOwn fun a => { a with entries := (session, time) :: a.entries }
    return session

def caches (ttl : Option Number) : Caches Account where
  sessions :=
    { name := sessionName, ttl := ttl, maxAttempts := Defaults.fetchAttempts, cell := sessionSlot,
      latch := latchSlot }
  orgMaps :=
    { name := orgMapName, ttl := ttl, maxAttempts := Defaults.fetchAttempts, cell := orgMapSlot,
      latch := latchSlot }
  login := login

theorem play_login (w : World Account) :
    login.play w = match w.own.outcomes w.own.count with
      | .error plan =>
        (Act.failPlan plan).play { w with own := { w.own with count := w.own.count + 1 } }
      | .ok (token, directory) =>
        (.ok ⟨token, directory, .real w.clock⟩, { w with own :=
          { w.own with
            count := w.own.count + 1
            entries := (⟨token, directory, .real w.clock⟩, w.clock) :: w.own.entries } }) := by
  have known : (Act.own : Act Account Account).play w = (.ok w.own, w) := rfl
  have counted : (Act.modifyOwn fun a : Account => { a with count := a.count + 1 }).play w =
    (.ok (), { w with own := { w.own with count := w.own.count + 1 } }) := rfl
  rw [login, play_bind_of_ok known, play_bind_of_ok counted]
  cases w.own.outcomes w.own.count <;> rfl

theorem cells_login (w : World Account) :
    (login.play w).2.own.sessions = w.own.sessions ∧
      (login.play w).2.own.orgMaps = w.own.orgMaps := by
  rw [play_login]
  split <;> exact ⟨rfl, rfl⟩

def books (ttl : Option Number) : (caches ttl).Books where
  entries := entries
  entered := by
    intro w session w' played
    have known : login.play w = _ := played
    rw [play_login] at known
    split at known <;> cases known
    rfl
  refused := by
    intro w i w' played
    have known : login.play w = _ := played
    rw [play_login] at known
    split at known <;> cases known
    rfl
  forgets_session w := by
    obtain ⟨same, -⟩ := cells_login w
    exact .inr ⟨congrArg Cell.memo same, congrArg Cell.generation same⟩
  forgets_orgs w := by
    obtain ⟨-, same⟩ := cells_login w
    exact .inr ⟨congrArg Cell.memo same, congrArg Cell.generation same⟩

/-- What there is changes between two logins. -/
def changing : Nat → Except FaultPlan (Value × Fields Value)
  | 0 => .ok (.text "t1", [("o1", .reference (.text "o1") (.text "https://h/org/1") .null)])
  | _ => .ok (.text "t2", [("o2", .reference (.text "o2") (.text "https://h/org/2") .null)])

def outset : World Account := { clock := 1000, own := { outcomes := changing } }

def minute : Option Number := some (.whole 60)

/-- The map is copied when the session is almost a minute old. -/
def overMinutes : List Event := [.ask .token, .pass 59, .ask .orgs, .pass 59]

/-- Another minute later the map is handed out all the same, and no login was recent. -/
theorem orgs_over_minutes :
    (match ((caches minute).perform .orgs).play ((caches minute).after overMinutes outset) with
    | (.ok (.value (.pairs _)), w) => w.own.count == 1 &&
      Cell.isFresh (.whole 60) w.clock w.clock &&
      w.own.entries.all fun entry => !Cell.isFresh (.whole 60) w.clock entry.2
    | _ => false) = true := by decide +kernel

end Account

/-! ## How old an answer may be -/

namespace Books

variable {c : Caches σ}

/-- Whatever caches went through before, a session that they hand out, or read off, is one of a
recent login. The map of organisations is the directory of one whose login was recent when the map
was copied, which was recent in its turn. -/
theorem answers_dated (books : c.Books) (start : World σ)
    (sessionless : (c.sessions.cell.read start.own).memo = none)
    (mapless : (c.orgMaps.cell.read start.own).memo = none) (events : List Event)
    (operation : Operation) {answer : Answer} {w : World σ}
    (answered : (c.perform operation).play (c.after events start) = (.ok answer, w)) :
    books.Dated w operation answer := by
  have sound : books.Sound start.own := by
    refine ⟨fun session time memo => ?_, fun orgs copied memo => ?_⟩
    · rw [sessionless] at memo
      cases memo
    · rw [mapless] at memo
      cases memo
  have ended := ensures_perform operation _ (sound.after events)
  rw [answered] at ended
  exact ended.2

open Account in
/-- The first of two minutes is that of the session, the second that of the map. -/
theorem answers_dated_over_minutes :
    ∃ orgs w, ((caches minute).perform .orgs).play ((caches minute).after overMinutes outset) =
        (.ok (.value (.pairs orgs)), w) ∧ w.own.count = 1 ∧
      ∃ copied, (books minute).Copied w.own orgs copied ∧
        Supplier.Recent minute w.clock copied := by
  have evaluated := orgs_over_minutes
  split at evaluated
  · rename_i orgs w answered
    have dated := (books minute).answers_dated outset rfl rfl overMinutes .orgs answered
    simp only [Bool.and_eq_true, beq_iff_eq] at evaluated
    exact ⟨orgs, w, answered, evaluated.1.1, dated⟩
  · cases evaluated

open Account in
/-- It is not so that a map is the directory of a session that is still fresh. -/
theorem not_answers_dated_by_login :
    ¬ ∀ events orgs w, ((caches minute).perform .orgs).play ((caches minute).after events outset) =
        (.ok (.value (.pairs orgs)), w) →
      ∃ session time, (session, time) ∈ w.own.entries ∧ orgs = session.directory ∧
        Supplier.Recent minute w.clock time := by
  intro claimed
  have evaluated := orgs_over_minutes
  split at evaluated
  · rename_i orgs w answered
    simp only [Bool.and_eq_true, List.all_eq_true, Bool.not_eq_true'] at evaluated
    obtain ⟨⟨-, current⟩, stale⟩ := evaluated
    obtain ⟨session, time, entered, -, recent⟩ := claimed overMinutes orgs w answered
    have old := stale (session, time) entered
    rcases recent with rfl | ⟨seconds, known, fresh⟩
    · rw [current] at old
      cases old
    · cases known
      rw [fresh] at old
      cases old
  · cases evaluated

end Books

end CloudSession.VCloud.Caches
