import Mathlib.Tactic.Lemma

/-!
# Outcomes

Steps that may fail, one after the other: when two of them succeed or fail, and what becomes of an
error that is reported in another form.
-/

namespace KindResolution

/-- A step that succeeds ends in what the second part makes of the result of the first. -/
lemma bind_eq_ok_iff {ε α β : Type} {x : Except ε α} {f : α → Except ε β} {b : β} :
    x.bind f = .ok b ↔ ∃ a, x = .ok a ∧ f a = .ok b := by
  cases x with
  | error e => simp [Except.bind]
  | ok a => simp [Except.bind]

/-- A step that fails does so in its first part, or else in what the second part makes of the result
of the first. -/
lemma bind_eq_error_iff {ε α β : Type} {x : Except ε α} {f : α → Except ε β} {e : ε} :
    x.bind f = .error e ↔ x = .error e ∨ ∃ a, x = .ok a ∧ f a = .error e := by
  cases x with
  | error e => simp [Except.bind]
  | ok a => simp [Except.bind]

/-- A mapped outcome succeeds with what the result is mapped to. -/
lemma map_eq_ok_iff {ε α β : Type} {x : Except ε α} {f : α → β} {b : β} :
    x.map f = .ok b ↔ ∃ a, x = .ok a ∧ f a = b := by
  cases x with
  | error e => simp [Except.map]
  | ok a => simp [Except.map]

/-- A mapped outcome fails as the outcome does. -/
lemma map_eq_error_iff {ε α β : Type} {x : Except ε α} {f : α → β} {e : ε} :
    x.map f = .error e ↔ x = .error e := by
  cases x with
  | error err => simp [Except.map]
  | ok a => simp [Except.map]

/-- Two steps look the same if they fail alike or their results look the same. -/
lemma map_eq_map_iff {ε α β : Type} {x x' : Except ε α} {f : α → β} :
    x.map f = x'.map f ↔
      (∃ e, x = .error e ∧ x' = .error e) ∨ ∃ a a', x = .ok a ∧ x' = .ok a' ∧ f a = f a' := by
  cases x <;> cases x' <;> simp [Except.map, eq_comm]

/-- What is made of a result twice is made of it at once. -/
lemma map_map {ε α β γ : Type} (x : Except ε α) (f : α → β) (g : β → γ) :
    (x.map f).map g = x.map fun a => g (f a) := by
  cases x <;> rfl

/-- A result does not depend on how errors are reported. -/
lemma mapError_eq_ok_iff {ε ε' α : Type} {x : Except ε α} {f : ε → ε'} {a : α} :
    x.mapError f = .ok a ↔ x = .ok a := by
  cases x with
  | error e => exact ⟨nofun, nofun⟩
  | ok b =>
    constructor
    · intro e
      cases e; rfl
    · intro e
      cases e; rfl

/-- An outcome with mapped errors fails with what the error is mapped to. -/
lemma mapError_eq_error_iff {ε ε' α : Type} {x : Except ε α} {f : ε → ε'} {e : ε'} :
    x.mapError f = .error e ↔ ∃ err, x = .error err ∧ f err = e := by
  cases x with
  | error err =>
    constructor
    · intro h
      cases h
      exact ⟨err, rfl, rfl⟩
    · rintro ⟨_, h, rfl⟩
      cases h; rfl
  | ok b =>
    constructor
    · intro h
      cases h
    · rintro ⟨_, h, _⟩
      cases h

end KindResolution
