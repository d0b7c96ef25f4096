import CloudSession.Proofs.Http.Client

/-! # What requests spend

Requests of two sorts are counted: those that were asked for, and those that are sent on the way to
them. Acts in a row spend what each of them spends, so a loop spends as much as one turn of it for
each turn.
-/

namespace CloudSession

open Act

variable {P Q : Sent → Prop} {a b c d : Nat}

/-- A record of so many requests of each of two sorts. -/
inductive Outlay (P Q : Sent → Prop) : Nat → Nat → List Sent → Prop where
  | nil : Outlay P Q 0 0 []
  | left {a b : Nat} {sent : Sent} {rest : List Sent} :
    P sent → Outlay P Q a b rest → Outlay P Q (a + 1) b (sent :: rest)
  | right {a b : Nat} {sent : Sent} {rest : List Sent} :
    Q sent → Outlay P Q a b rest → Outlay P Q a (b + 1) (sent :: rest)

namespace Outlay

variable {sent rest : List Sent}

theorem length (outlay : Outlay P Q a b sent) : sent.length = a + b := by
  induction outlay with
  | nil => rfl
  | left _ _ ih => simp only [List.length_cons, ih]; omega
  | right _ _ ih => simp only [List.length_cons, ih]; omega

theorem append (first : Outlay P Q a b sent) (second : Outlay P Q c d rest) :
    Outlay P Q (a + c) (b + d) (sent ++ rest) := by
  induction first with
  | nil => simpa using second
  | @left a b _ _ mine _ ih =>
    rw [Nat.add_right_comm]
    exact .left mine ih
  | @right a b _ _ other _ ih =>
    rw [Nat.add_right_comm]
    exact .right other ih

theorem swap (outlay : Outlay P Q a b sent) : Outlay Q P b a sent := by
  induction outlay with
  | nil => exact .nil
  | left mine _ ih => exact .right mine ih
  | right other _ ih => exact .left other ih

end Outlay

variable {σ α β : Type} [Wired σ]

/-- From one state to another at most so many requests of each of two sorts are sent. -/
def Spent (P Q : Sent → Prop) (a b : Nat) (s t : σ) : Prop :=
  ∃ sent n m, (Wired.wire.read t).sent = (Wired.wire.read s).sent ++ sent ∧ Outlay P Q n m sent ∧
    n ≤ a ∧ m ≤ b

namespace Spent

variable {s t u : σ}

theorem of_same (same : (Wired.wire.read t).sent = (Wired.wire.read s).sent) :
    Spent P Q a b s t :=
  ⟨[], 0, 0, by rw [same, List.append_nil], .nil, Nat.zero_le a, Nat.zero_le b⟩

theorem of_send {sent : Sent} (mine : P sent)
    (record : (Wired.wire.read t).sent = (Wired.wire.read s).sent ++ [sent]) :
    Spent P Q 1 b s t :=
  ⟨[sent], 1, 0, record, .left mine .nil, Nat.le_refl 1, Nat.zero_le b⟩

theorem mono (spent : Spent P Q a b s t) (more : a ≤ c) (others : b ≤ d) : Spent P Q c d s t := by
  obtain ⟨sent, n, m, record, outlay, few, few_others⟩ := spent
  exact ⟨sent, n, m, record, outlay, Nat.le_trans few more, Nat.le_trans few_others others⟩

theorem swap (spent : Spent P Q a b s t) : Spent Q P b a s t := by
  obtain ⟨sent, n, m, record, outlay, few, few_others⟩ := spent
  exact ⟨sent, m, n, record, outlay.swap, few_others, few⟩

theorem trans (first : Spent P Q a b s t) (second : Spent P Q c d t u) :
    Spent P Q (a + c) (b + d) s u := by
  obtain ⟨sent, n, m, record, outlay, few, few_others⟩ := first
  obtain ⟨rest, n', m', record', outlay', few', few_others'⟩ := second
  refine ⟨sent ++ rest, n + n', m + m', ?_, outlay.append outlay', ?_, ?_⟩
  · rw [record', record, List.append_assoc]
  · omega
  · omega

/-- The second of two acts spends where the first one ended well. -/
theorem bind {act : Act σ α} {next : α → Act σ β} {w : World σ}
    (first : Spent P Q a b w.own (act.play w).2.own)
    (second : ∀ x w', act.play w = (.ok x, w') →
      Spent P Q c d w'.own ((next x).play w').2.own) :
    Spent P Q (a + c) (b + d) w.own ((act >>= next).play w).2.own := by
  cases played : act.play w with
  | mk outcome w' =>
    rw [played] at first
    cases outcome with
    | error i =>
      rw [play_bind_of_error played]
      exact first.mono (Nat.le_add_right a c) (Nat.le_add_right b d)
    | ok x =>
      rw [play_bind_of_ok played]
      exact first.trans (second x w' played)

theorem behind {act : Act σ α} {next : α → Act σ β} {w : World σ}
    (quiet : Keeps (Alike fun s => (Wired.wire.read s : Wire).sent) act)
    (second : ∀ x w', act.play w = (.ok x, w') →
      Spent P Q a b w'.own ((next x).play w').2.own) :
    Spent P Q a b w.own ((act >>= next).play w).2.own := by
  simpa only [Nat.zero_add] using bind (a := 0) (b := 0) (.of_same (quiet w)) second

end Spent

namespace Act

variable {act : Act σ α}

/-- What an act spends at most, wherever it is played. -/
abbrev Spends (P Q : Sent → Prop) (a b : Nat) (act : Act σ α) : Prop := Keeps (Spent P Q a b) act

theorem Spends.of_quiet (quiet : Keeps (Alike fun s => (Wired.wire.read s : Wire).sent) act) :
    Spends P Q a b act :=
  fun w => .of_same (quiet w)

theorem Spends.mono (spends : Spends P Q a b act) (more : a ≤ c) (others : b ≤ d) :
    Spends P Q c d act :=
  fun w => (spends w).mono more others

theorem Spends.swap (spends : Spends P Q a b act) : Spends Q P b a act := fun w => (spends w).swap

theorem Spends.bind {next : α → Act σ β} (first : Spends P Q a b act)
    (second : ∀ x, Spends P Q c d (next x)) : Spends P Q (a + c) (b + d) (act >>= next) :=
  fun w => (first w).bind fun x w' _ => second x w'

theorem Spends.before {next : α → Act σ β} (first : Spends P Q a b act)
    (quiet : ∀ x, Keeps (Alike fun s => (Wired.wire.read s : Wire).sent) (next x)) :
    Spends P Q a b (act >>= next) :=
  Spends.bind (c := 0) (d := 0) first fun x => .of_quiet (quiet x)

theorem Spends.behind {next : α → Act σ β}
    (quiet : Keeps (Alike fun s => (Wired.wire.read s : Wire).sent) act)
    (second : ∀ x, Spends P Q a b (next x)) : Spends P Q a b (act >>= next) :=
  fun _ => .behind quiet fun x w' _ => second x w'

end Act

namespace Client

variable {client : Client σ} {asked : Request} {timeout : Value}

/-- How many more passes there may be behind the first one. -/
def spare (client : Client σ) : Nat := client.limit?.getD 0

/-- A client whose filters spend nothing of the first sort, and make one request of it. -/
structure Thrifty (P Q : Sent → Prop) (cost : Nat) (client : Client σ) (asked : Request)
    (timeout : Value) : Prop where
  filter : Spends P Q 0 cost (client.filter asked)
  filtered : ∀ w current w', (client.filter asked).play w = (.ok current, w') →
    P ⟨current, timeout, client.verify⟩
  retry : ∀ handler, client.retry = some handler →
    handler.Keeps (Alike fun s => (Wired.wire.read s : Wire).sent)

variable {cost : Nat}

section

variable (thrifty : client.Thrifty P Q cost asked timeout)

include thrifty

theorem Thrifty.trip (failures : Nat) : Spends P Q 1 cost (client.trip asked timeout failures) := by
  intro w
  have before := thrifty.filter w
  cases passed : (client.filter asked).play w with
  | mk outcome w' =>
    rw [passed] at before
    cases outcome with
    | error i =>
      rw [play_trip_of_unfiltered passed]
      exact before.mono (Nat.zero_le 1) (Nat.le_refl cost)
    | ok current =>
      have sends : Spent P Q 1 0 w'.own ((client.trip asked timeout failures).play w).2.own :=
        .of_send (thrifty.filtered w current w' passed) (sent_trip thrifty.retry passed)
      simpa using before.trans sends

theorem Thrifty.tripThen (failures : Nat) {next : Due → Act σ ResponseId}
    (behind : ∀ due, Spends P Q a b (next due)) :
    Spends P Q (1 + a) (cost + b) (client.tripThen asked timeout failures next) := by
  apply (thrifty.trip failures).bind
  intro outcome
  cases outcome with
  | ok response => exact .of_quiet (.pure response)
  | error due => exact behind due

/-- Each pass sends one request, and spends what its filters spend. -/
theorem Thrifty.trips (left failures : Nat) :
    Spends P Q (left + 1) ((left + 1) * cost) (client.trips asked timeout left failures) := by
  induction left generalizing failures with
  | zero =>
    apply (thrifty.tripThen failures fun due => .of_quiet (keeps_giveUp Wire.lenient_sent due)).mono
      (a := 1 + 0) (b := cost + 0)
    · omega
    · omega
  | succ left ih =>
    apply (thrifty.tripThen failures fun _ => ih (failures + 1)).mono
    · omega
    · have turns : (left + 1 + 1) * cost = (left + 1) * cost + cost := Nat.succ_mul (left + 1) cost
      omega

end

theorem Thrifty.execute (thrifty : client.Thrifty P Q cost asked (client.waiting timeout)) :
    Spends P Q (client.spare + 1) ((client.spare + 1) * cost) (client.execute asked timeout) := by
  rw [Client.execute_eq, spare]
  cases client.limit? with
  | some limit => exact thrifty.trips limit 0
  | none =>
    apply (thrifty.tripThen (a := 0) (b := 0) 0 ?_).mono
    · simp
    · simp
    · intro due
      apply Spends.of_quiet
      cases due with
      | cut i => exact .bind (.of_own fun _ => rfl) fun j => .failWhile i j
      | accepted command response => exact .fail _

end Client

end CloudSession
