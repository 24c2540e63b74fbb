import Dimensional.Proofs.Exponent.Calculation

/-!
# The form and the value of an exponent that is worked on

At every point of a calculation the exponent has a denominator that is greater than zero, and it is in
lowest terms unless nothing but its sign has changed. Its predicates speak about its value.
-/

namespace Dimensional.Exponent

/-- What holds of the exponent `c` that began as `n / d`, after `steps` that each had a result. -/
structure Invariant (n d : ℤ) (steps : List Step) (c : Exponent) : Prop where
  den_pos : 1 ≤ c.den
  den_le : c.den ≤ 2 ^ 31 - 1
  value : c.value = steps.foldl Step.exact ((n : ℚ) / d)
  reduced : (∃ s ∈ steps, s.Reduces) → c.Reduced
  unreduced : ¬ c.Reduced → (∀ s ∈ steps, s.Signs) ∧ |c.num| = |n| ∧ c.den = |d|
  isZero : c.IsZero ↔ c.value = 0
  isPositive : c.IsPositive ↔ 0 < c.value
  isNegative : c.IsNegative ↔ c.value < 0
  isInteger : c.IsInteger ↔ ∃ k : ℤ, c.value = k
  isOne : c.IsOne ↔ c.value = 1

variable {a c : Exponent} {n d : ℤ} {steps : List Step}

theorem invariant_of_complete (hstart : ofPair n d = .ok a) (hs : ∀ s ∈ steps, s.IsOperation)
    (h : complete a steps = .ok c) : Invariant n d steps c where
  den_pos := c.den_pos
  den_le := Int.le_sub_one_of_lt c.den_lt
  value := by rw [value_of_complete h, value_of_ofPair hstart]
  reduced hreduces := reduced_of_complete hs hreduces h
  unreduced hform := by
    have hsigns : ∀ s ∈ steps, s.Signs := fun s hmem =>
      (hs s hmem).resolve_left fun hreduces => hform (reduced_of_complete hs ⟨s, hmem, hreduces⟩ h)
    obtain ⟨hn, hd⟩ := abs_num_of_complete hsigns h
    obtain ⟨hn', hd'⟩ := abs_num_of_ofPair hstart
    exact ⟨hsigns, hn.trans hn', hd.trans hd'⟩
  isZero := isZero_iff_value
  isPositive := isPositive_iff_value
  isNegative := isNegative_iff_value
  isInteger := isInteger_iff_value
  isOne := isOne_iff_value

theorem invariant_run (hstart : ofPair n d = .ok a) (hs : ∀ s ∈ steps, s.IsOperation) :
    Invariant n d (performed Step.apply a steps) (a.run steps) :=
  invariant_of_complete hstart (fun s h => hs s (mem_of_mem_performed h)) (complete_performed a steps)

end Dimensional.Exponent
