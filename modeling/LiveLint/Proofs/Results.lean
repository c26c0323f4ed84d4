/-!
# Computations that may fail

What follows from how one part of a computation ends for the whole of it, by the steps of which such
computations are made: a map of the result, and a next step that takes it. A property that results
have whenever there are any (`Ensures`) is kept by both.
-/

namespace LiveLint

/-- A changed result is there exactly if there was one to change. -/
theorem map_eq_ok_iff {ε α β : Type} {x : Except ε α} {g : α → β} {b : β} :
    x.map g = .ok b ↔ ∃ a, x = .ok a ∧ g a = b := by
  cases x with
  | ok a =>
    constructor
    · intro h
      exact ⟨a, rfl, Except.ok.inj h⟩
    · rintro ⟨_, ⟨⟩, rfl⟩
      rfl
  | error e =>
    constructor
    · nofun
    · rintro ⟨_, ⟨⟩, _⟩

/-- A composition has a result exactly if both parts have one. -/
theorem bind_eq_ok_iff {ε α β : Type} {x : Except ε α} {next : α → Except ε β} {b : β} :
    x >>= next = .ok b ↔ ∃ a, x = .ok a ∧ next a = .ok b := by
  cases x with
  | ok a =>
    constructor
    · intro h
      exact ⟨a, rfl, h⟩
    · rintro ⟨_, ⟨⟩, h⟩
      exact h
  | error e =>
    constructor
    · nofun
    · rintro ⟨_, ⟨⟩, _⟩

/-- A composition fails in its first part, or in its second part on what the first one gave. -/
theorem bind_eq_error_iff {ε α β : Type} {x : Except ε α} {next : α → Except ε β} {e : ε} :
    x >>= next = .error e ↔ x = .error e ∨ ∃ a, x = .ok a ∧ next a = .error e := by
  cases x with
  | ok a =>
    constructor
    · exact fun h => .inr ⟨a, rfl, h⟩
    · rintro (h | ⟨_, ⟨⟩, h⟩)
      · cases h
      · exact h
  | error e' =>
    constructor
    · exact fun h => .inl (congrArg Except.error (Except.error.inj h))
    · rintro (h | ⟨_, ⟨⟩, _⟩)
      exact congrArg Except.error (Except.error.inj h)

/-- Whatever is computed has the property. -/
def Ensures {ε α : Type} (P : α → Prop) (r : Except ε α) : Prop := ∀ a, r = .ok a → P a

section

variable {ε α β : Type} {P : α → Prop} {Q : β → Prop}

/-- A result with the property has it. -/
theorem ensures_ok {a : α} (h : P a) : Ensures P (.ok a : Except ε α) := by
  rintro _ ⟨⟩
  exact h

/-- Where there is no result, nothing has to hold of it. -/
theorem ensures_error (e : ε) : Ensures P (.error e : Except ε α) := nofun

/-- The property is handed on through a composition. -/
theorem Ensures.bind {r : Except ε α} (h : Ensures P r) {next : α → Except ε β}
    (hnext : ∀ a, P a → Ensures Q (next a)) : Ensures Q (r >>= next) := by
  cases r with
  | error e => exact ensures_error e
  | ok a => exact hnext a (h a rfl)

/-- The property of a result becomes that of the changed result. -/
theorem Ensures.map {r : Except ε α} (h : Ensures P r) {f : α → β} (hf : ∀ a, P a → Q (f a)) :
    Ensures Q (r.map f) := by
  cases r with
  | error e => exact ensures_error e
  | ok a => exact ensures_ok (hf a (h a rfl))

/-- Nothing is asked of a result here, for the parts whose results do not matter. -/
theorem ensures_trivial (r : Except ε α) : Ensures (fun _ => True) r := fun _ _ => trivial

end

end LiveLint
