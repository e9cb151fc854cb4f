/-!
Results that can be errors: what is known of the parts of one that is a value.
-/

namespace Except

variable {ε ε' α α' β β' : Type}

theorem map_eq_ok_iff {f : α → β} {x : Except ε α} {b : β} :
    x.map f = .ok b ↔ ∃ a, x = .ok a ∧ f a = b := by
  cases x <;> simp [Except.map]

theorem bind_eq_ok_iff {x : Except ε α} {f : α → Except ε β} {b : β} :
    (x >>= f) = .ok b ↔ ∃ a, x = .ok a ∧ f a = .ok b := by
  cases x <;> simp [bind, Except.bind]

theorem mapError_eq_ok_iff {f : ε → ε'} {x : Except ε α} {a : α} :
    x.mapError f = .ok a ↔ x = .ok a := by
  cases x with
  | error e => exact ⟨nofun, nofun⟩
  | ok b => constructor <;> rintro ⟨⟩ <;> rfl

/-- Two ways to go on after a step give the same result up to a change of it. -/
theorem bind_eq_map {x : Except ε α} {g : α → Except ε β} {g' : α → Except ε β'} {k : β → β'}
    (h : ∀ a, g' a = (g a).map k) : (x >>= g') = (x >>= g).map k := by
  cases x with
  | error e => rfl
  | ok a => exact h a

theorem map_bind_eq_map {x : Except ε α} {f : α → α'} {g : α → Except ε β} {g' : α' → Except ε β'}
    {k : β → β'} (h : ∀ a, g' (f a) = (g a).map k) : (x.map f >>= g') = (x >>= g).map k := by
  cases x with
  | error e => rfl
  | ok a => exact h a

theorem exists_eq_ok_of_any {x : Except ε α} {f : α → Bool} (h : x.toOption.any f = true) :
    ∃ a, x = .ok a ∧ f a = true := by
  cases x with
  | error e => cases h
  | ok a => exact ⟨a, rfl, h⟩

end Except
