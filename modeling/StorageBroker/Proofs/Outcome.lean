/-!
# Computations that may fail

What it takes for a computation in several stages to come to a value, or to an error.
-/

set_option autoImplicit false

namespace StorageBroker

variable {α β ε : Type} {first : Except ε α} {next : α → Except ε β}

/-- Two stages come to a value when the first one comes to a value from which the second one does. -/
theorem bind_eq_ok_iff {value : β} : first >>= next = .ok value ↔
    ∃ middle, first = .ok middle ∧ next middle = .ok value := by
  cases first with
  | ok middle =>
    constructor
    · intro ends
      exact ⟨middle, rfl, ends⟩
    · rintro ⟨_, ⟨⟩, ends⟩
      exact ends
  | error error =>
    constructor
    · rintro ⟨⟩
    · rintro ⟨_, ⟨⟩, -⟩

/-- Two stages come to an error when one of them does. -/
theorem bind_eq_error_iff {fault : ε} : first >>= next = .error fault ↔
    first = .error fault ∨ ∃ middle, first = .ok middle ∧ next middle = .error fault := by
  cases first with
  | ok middle =>
    constructor
    · intro ends
      exact .inr ⟨middle, rfl, ends⟩
    · rintro (⟨⟨⟩⟩ | ⟨_, ⟨⟩, ends⟩)
      exact ends
  | error error =>
    constructor
    · rintro ⟨⟩
      exact .inl rfl
    · rintro (⟨⟨⟩⟩ | ⟨_, ⟨⟩, -⟩)
      rfl

theorem map_eq_ok_iff {view : α → β} {value : β} : first.map view = .ok value ↔
    ∃ middle, first = .ok middle ∧ view middle = value := by
  cases first with
  | ok middle => simp [Except.map]
  | error error => simp [Except.map]

theorem map_eq_error_iff {view : α → β} {fault : ε} : first.map view = .error fault ↔
    first = .error fault := by
  cases first <;> simp [Except.map]

end StorageBroker
