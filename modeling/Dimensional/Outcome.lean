/-!
# Outcomes

What it means for a computation that may fail to succeed, step by step.
-/

namespace Dimensional.Outcome

variable {ε δ α β : Type}

/-- The value of a computation that is known to succeed. -/
def get : (x : Except ε α) → x.isOk → α
  | .ok a, _ => a

theorem eq_ok_get (x : Except ε α) (h : x.isOk) : x = .ok (get x h) := by
  cases x with
  | ok a => rfl
  | error e => contradiction

theorem bind_eq_ok {x : Except ε α} {f : α → Except ε β} {b : β} :
    (x >>= f) = .ok b ↔ ∃ a, x = .ok a ∧ f a = .ok b := by
  cases x <;> simp [bind, Except.bind]

theorem bind_eq_error {x : Except ε α} {f : α → Except ε β} {e : ε} :
    (x >>= f) = .error e ↔ x = .error e ∨ ∃ a, x = .ok a ∧ f a = .error e := by
  cases x <;> simp [bind, Except.bind]

theorem map_eq_ok {x : Except ε α} {f : α → β} {b : β} :
    x.map f = .ok b ↔ ∃ a, x = .ok a ∧ f a = b := by
  cases x <;> simp [Except.map]

theorem mapError_eq_ok {x : Except ε α} {f : ε → δ} {a : α} :
    x.mapError f = .ok a ↔ x = .ok a := by
  cases x with
  | error e => exact ⟨nofun, nofun⟩
  | ok b => exact ⟨fun h => by cases h; rfl, fun h => by cases h; rfl⟩

theorem map_eq_error {x : Except ε α} {f : α → β} {e : ε} : x.map f = .error e ↔ x = .error e := by
  cases x <;> simp [Except.map]

theorem mapError_eq_error {x : Except ε α} {f : ε → δ} {e : δ} :
    x.mapError f = .error e ↔ ∃ e', x = .error e' ∧ f e' = e := by
  cases x with
  | error e' =>
    change Except.error (f e') = .error e ↔ _
    simp
  | ok a => exact ⟨nofun, nofun⟩

theorem mapError_map {x : Except ε α} {f : α → β} {g : ε → δ} :
    (x.map f).mapError g = (x.mapError g).map f := by
  cases x <;> rfl

end Dimensional.Outcome
