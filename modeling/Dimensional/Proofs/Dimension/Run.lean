import Dimensional.Proofs.Dimension.Sum
import Dimensional.Proofs.Exponent.Run

/-!
# The form and the values of a dimension that is worked on

A step that stops in one slot leaves all seven as they are. So in every slot the steps that have a result
are a calculation with one exponent, and what holds of exponents at every point holds of every slot.
-/

namespace Dimensional.Dimension

namespace Step

/-- The step works on the dimension that it finds, and does not replace it. -/
def IsOperation : Step → Prop
  | set _ => False
  | _ => True

theorem IsOperation.slot {s : Step} (hs : s.IsOperation) (b : BaseDimension) : (s.slot b).IsOperation := by
  cases s with
  | add w => exact .inl (.add _)
  | sub w => exact .inl (.sub _)
  | negate => exact .inr .neg
  | scale k => exact .inl (.scale k)
  | halve => exact .inl .halve
  | sqrt => exact .inl .halve
  | set w => exact hs.elim

end Step

open Exponent (Invariant ofInt ofPair)

variable {v : Dimension} {steps : List Step}

theorem complete_performed (v : Dimension) (steps : List Step) :
    complete v (performed Step.apply v steps) = .ok (v.run steps) :=
  foldlM_performed (fun h => by rw [Step.next, h]) (fun h => by rw [Step.next, h])

theorem invariant_run {n d : BaseDimension → ℤ} (hstart : ∀ b, ofPair (n b) (d b) = .ok (v.exponent b))
    (hs : ∀ s ∈ steps, s.IsOperation) (b : BaseDimension) :
    Invariant (n b) (d b) ((performed Step.apply v steps).map (Step.slot b)) ((v.run steps).exponent b) := by
  refine Exponent.invariant_of_complete (hstart b) ?_ (complete_slot (complete_performed v steps) b)
  rw [List.forall_mem_map]
  exact fun s h => (hs s (mem_of_mem_performed h)).slot b

/-- Whatever is calculated with written exponents, and whichever steps stop on the way, every exponent has
a denominator greater than zero, is in lowest terms after the first result that is more than a change of
sign, and answers for its exact value. In dimensions this holds of every slot. -/
theorem run_invariant :
    (∀ n : ℤ, ofInt n = ofPair n 1) ∧
    (∀ {n d : ℤ} {a : Exponent} {steps : List Exponent.Step}, ofPair n d = .ok a →
      (∀ s ∈ steps, s.IsOperation) → Invariant n d (performed Exponent.Step.apply a steps) (a.run steps)) ∧
    ∀ {n d : BaseDimension → ℤ} {v : Dimension} {steps : List Step},
      (∀ b, ofPair (n b) (d b) = .ok (v.exponent b)) → (∀ s ∈ steps, s.IsOperation) →
        ∀ b, Invariant (n b) (d b) ((performed Step.apply v steps).map (Step.slot b))
          ((v.run steps).exponent b) :=
  ⟨fun _ => rfl, Exponent.invariant_run, invariant_run⟩

theorem run_invariant_two_thirds :
    let a : Exponent := ⟨4, 6, by decide, by decide, by decide, by decide⟩
    let third : Exponent := ⟨2, 6, by decide, by decide, by decide, by decide⟩
    let v : Dimension := { length := a }
    let n : BaseDimension → ℤ := fun b => if b = .length then -4 else 0
    let d : BaseDimension → ℤ := fun b => if b = .length then -6 else 1
    let signs : List Exponent.Step := [.neg, .sub (.whole (-2 ^ 31)), .abs]
    let steps : List Exponent.Step := signs ++ [.add third, .neg]
    let slots : List Step := [.negate, .sub { mass := .whole (-2 ^ 31) }, .add { length := third }, .halve]
    (a.run signs = a ∧ (performed Exponent.Step.apply a signs).length = 2) ∧
    (a.run steps = .whole (-1) ∧ Invariant (-4) (-6) (performed Exponent.Step.apply a steps) (.whole (-1))) ∧
    ((v.run slots).length.stored = "-1/6" ∧ (performed Step.apply v slots).length = 3 ∧
      ∀ b, Invariant (n b) (d b) ((performed Step.apply v slots).map (Step.slot b))
        ((v.run slots).exponent b)) := by
  intro a third v n d signs steps slots
  refine ⟨by decide +kernel, ?_, by decide +kernel, by decide +kernel, ?_⟩
  · have hrun : a.run steps = .whole (-1) := by decide +kernel
    have hs : ∀ s ∈ steps, s.IsOperation := by
      simp only [steps, signs, List.cons_append, List.nil_append, List.forall_mem_cons]
      exact ⟨.inr .neg, .inl (.sub _), .inr .abs, .inl (.add _), .inr .neg, List.forall_mem_nil _⟩
    have h := run_invariant.2.1 (show ofPair (-4) (-6) = .ok a by decide +kernel) hs
    rw [hrun] at h
    exact ⟨hrun, h⟩
  · have hs : ∀ s ∈ slots, s.IsOperation := by
      simp only [slots, List.forall_mem_cons]
      exact ⟨trivial, trivial, trivial, trivial, List.forall_mem_nil _⟩
    exact run_invariant.2.2 (n := n) (d := d) (by decide +kernel) hs

end Dimensional.Dimension
