import Dimensional.Outcome

/-!
# Calculations that keep their state

A calculation whose steps may fail, and that keeps its state where one does, ends where those of its steps
lead that have a result.
-/

namespace Dimensional

variable {σ τ ε : Type} {apply : σ → τ → Except ε σ} {next : σ → τ → σ} {a : σ} {s : τ} {steps : List τ}

/-- The steps that have a result, each from the state in which it is taken. -/
def performed (apply : σ → τ → Except ε σ) (a : σ) : List τ → List τ
  | [] => []
  | s :: steps =>
    match apply a s with
    | .ok b => s :: performed apply b steps
    | .error _ => performed apply a steps

theorem mem_of_mem_performed (h : s ∈ performed apply a steps) : s ∈ steps := by
  induction steps generalizing a with
  | nil => exact h
  | cons t steps ih =>
    unfold performed at h
    split at h
    · rcases List.mem_cons.mp h with rfl | h
      · exact List.mem_cons_self
      · exact List.mem_cons_of_mem t (ih h)
    · exact List.mem_cons_of_mem t (ih h)

theorem foldlM_performed (hok : ∀ {a s b}, apply a s = .ok b → next a s = b)
    (herror : ∀ {a s e}, apply a s = .error e → next a s = a) :
    (performed apply a steps).foldlM apply a = .ok (steps.foldl next a) := by
  induction steps generalizing a with
  | nil => rfl
  | cons s steps ih =>
    unfold performed
    rw [List.foldl_cons]
    cases h : apply a s with
    | ok b =>
      rw [hok h, List.foldlM_cons, Outcome.bind_eq_ok]
      exact ⟨b, h, ih⟩
    | error e =>
      rw [herror h]
      exact ih

end Dimensional
