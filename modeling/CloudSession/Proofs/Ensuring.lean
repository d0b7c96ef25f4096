import CloudSession.Proofs.Keeping

/-! # What acts ensure

What holds before an act decides what holds behind it: one thing behind a value, which may tell of
the value, and another behind a fault.
-/

namespace CloudSession.Act

variable {σ α β : Type} {P P' : World σ → Prop} {Q Q' : α → World σ → Prop} {E E' : World σ → Prop}
variable {act : Act σ α}

/-- What holds behind the end of an act. -/
def Ended (Q : α → World σ → Prop) (E : World σ → Prop) : Except FaultId α × World σ → Prop
  | (.ok a, w) => Q a w
  | (.error _, w) => E w

def Ensures (P : World σ → Prop) (act : Act σ α) (Q : α → World σ → Prop) (E : World σ → Prop) :
    Prop :=
  ∀ w, P w → Ended Q E (act.play w)

theorem Ended.mono {ended : Except FaultId α × World σ} (holds : Ended Q E ended)
    (value : ∀ a w, Q a w → Q' a w) (fault : ∀ w, E w → E' w) : Ended Q' E' ended := by
  rcases ended with ⟨outcome, w⟩
  cases outcome with
  | ok a => exact value a w holds
  | error i => exact fault w holds

theorem Ended.bind {Q : β → World σ → Prop} {M : α → World σ → Prop} {next : α → Act σ β}
    {w : World σ} (first : Ended M E (act.play w))
    (second : ∀ a w', act.play w = (.ok a, w') → M a w' → Ended Q E ((next a).play w')) :
    Ended Q E ((act >>= next).play w) := by
  cases played : act.play w with
  | mk outcome w' =>
    rw [played] at first
    cases outcome with
    | ok a =>
      rw [play_bind_of_ok played]
      exact second a w' played first
    | error i =>
      rw [play_bind_of_error played]
      exact first

theorem Ensures.mono (ensures : Ensures P act Q E) (before : ∀ w, P' w → P w)
    (value : ∀ a w, Q a w → Q' a w) (fault : ∀ w, E w → E' w) : Ensures P' act Q' E' :=
  fun w start => (ensures w (before w start)).mono value fault

theorem Ensures.pure {a : α} (holds : ∀ w, P w → Q a w) : Ensures P (pure a) Q E := holds

theorem Ensures.bind {Q : β → World σ → Prop} {M : α → World σ → Prop} {next : α → Act σ β}
    (first : Ensures P act M E) (second : ∀ a, Ensures (M a) (next a) Q E) :
    Ensures P (act >>= next) Q E :=
  fun w start => (first w start).bind fun a w' _ => second a w'

theorem Ensures.grant {value : Except FaultHead α} (known : ∀ a w, value = .ok a → P w → Q a w)
    (fault : ∀ w log, P w → E { w with log := log }) : Ensures P (Act.grant value) Q E := by
  intro w start
  cases value with
  | ok a => exact known a w rfl start
  | error head => exact fault w _ start

/-- What is retained besides. -/
theorem Ensures.and (ensures : Ensures P act Q E) (leads : Leads (Retains P') act) :
    Ensures (fun w => P w ∧ P' w) act (fun a w => Q a w ∧ P' w) (fun w => E w ∧ P' w) := by
  rintro w ⟨start, besides⟩
  have ended := ensures w start
  have still := leads w besides
  cases played : act.play w with
  | mk outcome w' =>
    rw [played] at ended still
    cases outcome <;> exact ⟨ended, still⟩

/-- What is retained instead. -/
theorem Ensures.or (ensures : Ensures P act Q E) (leads : Leads (Retains P') act) :
    Ensures (fun w => P w ∨ P' w) act (fun a w => Q a w ∨ P' w) (fun w => E w ∨ P' w) := by
  rintro w (start | instead)
  · exact (ensures w start).mono (fun _ _ => .inl) fun _ => .inl
  · have still := leads w instead
    cases played : act.play w with
    | mk outcome w' =>
      rw [played] at still
      cases outcome <;> exact .inr still

/-- What an act retains is ensured behind it, however it ends. -/
theorem Ensures.of_leads (leads : Leads (Retains P) act) : Ensures P act (fun _ => P) P := by
  intro w start
  have still := leads w start
  cases played : act.play w with
  | mk outcome w' =>
    rw [played] at still
    cases outcome <;> exact still

/-- Conversely, what is ensured behind both ends is retained. -/
theorem Ensures.leads (ensures : Ensures P act Q E) (value : ∀ a w, Q a w → P w)
    (fault : ∀ w, E w → P w) : Leads (Retains P) act := by
  intro w start
  have ended := ensures w start
  cases played : act.play w with
  | mk outcome w' =>
    rw [played] at ended
    cases outcome with
    | ok a => exact value a w' ended
    | error i => exact fault w' ended

/-! ## Acts that fail -/

/-- An act that never ends with a value. -/
def Fails (act : Act σ α) : Prop := ∀ w a w', act.play w ≠ (.ok a, w')

theorem Fails.behind {next : α → Act σ β} (fails : ∀ a, Fails (next a)) : Fails (act >>= next) := by
  intro w b w' ended
  obtain ⟨a, between, -, last⟩ := exists_of_play_bind ended
  exact fails a between b w' last

theorem Fails.bind {next : α → Act σ β} (fails : Fails act) : Fails (act >>= next) := by
  intro w b w' ended
  obtain ⟨a, between, first, -⟩ := exists_of_play_bind ended
  exact fails w a between first

/-- Behind an act that fails, a value is not what anything has to be ensured for. -/
theorem Fails.ensures (fails : Fails act) (leads : Leads (Retains P) act) :
    Ensures P act Q P := by
  intro w start
  have still := leads w start
  cases played : act.play w with
  | mk outcome w' =>
    rw [played] at still
    cases outcome with
    | ok a => exact absurd played (fails w a w')
    | error i => exact still

end CloudSession.Act
