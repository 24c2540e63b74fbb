import Dimensional.Exponent.Step
import Dimensional.Proofs.Exponent.Value
import Dimensional.Proofs.Performed

/-!
# Calculations with exponents

Every step that has a result is exact. The result of most is in lowest terms, and a change of sign alone
keeps the form that it finds. So a calculation reaches lowest terms once and for all.
-/

namespace Dimensional.Exponent

/-! ## Steps -/

namespace Step

/-- The step brings the exponent into lowest terms. -/
inductive Reduces : Step → Prop where
  | add (b : Exponent) : Reduces (add b)
  | sub (b : Exponent) : Reduces (sub b)
  | scale (k : ℤ) : Reduces (scale k)
  | halve : Reduces halve
  | reduce : Reduces reduce

/-- The step changes nothing but the sign. -/
inductive Signs : Step → Prop where
  | neg : Signs neg
  | abs : Signs abs

/-- The step works on the exponent that it finds, and does not replace it. -/
def IsOperation (s : Step) : Prop :=
  s.Reduces ∨ s.Signs

/-- What the step does to a rational number. -/
def exact (q : ℚ) : Step → ℚ
  | add b => q + b.value
  | sub b => q - b.value
  | neg => -q
  | scale k => q * k
  | halve => q / 2
  | reduce => q
  | abs => |q|
  | set b => b.value

variable {s : Step} {a c : Exponent}

theorem value_of_apply (h : s.apply a = .ok c) : c.value = exact a.value s := by
  cases s with
  | add b => exact value_of_add h
  | sub b => exact value_of_sub h
  | neg => exact value_of_neg h
  | scale k => exact value_of_scale h
  | halve => exact value_of_halve h
  | reduce =>
    cases h
    exact a.value_reduce
  | abs => exact value_of_abs h
  | set b =>
    cases h
    rfl

theorem Reduces.reduced_of_apply (hs : s.Reduces) (h : s.apply a = .ok c) : c.Reduced := by
  cases hs with
  | add b => exact reduced_of_add h
  | sub b => exact reduced_of_sub h
  | scale k => exact reduced_of_scale h
  | halve => exact reduced_of_halve h
  | reduce =>
    cases h
    exact a.reduced_reduce

theorem Signs.abs_num_of_apply (hs : s.Signs) (h : s.apply a = .ok c) : |c.num| = |a.num| ∧ c.den = a.den := by
  cases hs with
  | neg =>
    obtain ⟨hn, hd⟩ := neg_eq_ok.mp h
    exact ⟨by rw [hn, abs_neg], hd⟩
  | abs =>
    obtain ⟨hn, hd⟩ := abs_eq_ok.mp h
    exact ⟨by rw [hn, abs_abs], hd⟩

theorem reduced_of_apply (hs : s.IsOperation) (ha : a.Reduced) (h : s.apply a = .ok c) : c.Reduced := by
  rcases hs with hs | hs
  · exact hs.reduced_of_apply h
  · obtain ⟨hn, hd⟩ := hs.abs_num_of_apply h
    rwa [Reduced, Int.gcd, Int.natAbs_eq_natAbs_iff.mpr (abs_eq_abs.mp hn), hd]

end Step

/-! ## Calculations -/

/-- The result of a calculation that the first fault stops. -/
def complete (a : Exponent) (steps : List Step) : Except Fault Exponent :=
  steps.foldlM Step.apply a

variable {a c d : Exponent} {s : Step} {steps : List Step}

theorem complete_cons : complete a (s :: steps) = .ok d ↔
    ∃ c, s.apply a = .ok c ∧ complete c steps = .ok d := by
  unfold complete
  rw [List.foldlM_cons, Outcome.bind_eq_ok]

theorem complete_performed (a : Exponent) (steps : List Step) :
    complete a (performed Step.apply a steps) = .ok (a.run steps) :=
  foldlM_performed (fun h => by rw [Step.next, h]) (fun h => by rw [Step.next, h])

theorem value_of_complete (h : complete a steps = .ok d) : d.value = steps.foldl Step.exact a.value := by
  induction steps generalizing a with
  | nil =>
    cases h
    rfl
  | cons s steps ih =>
    obtain ⟨c, hc, h⟩ := complete_cons.mp h
    rw [ih h, Step.value_of_apply hc, List.foldl_cons]

theorem reduced_of_complete_of_reduced (ha : a.Reduced) (hs : ∀ s ∈ steps, s.IsOperation)
    (h : complete a steps = .ok d) : d.Reduced := by
  induction steps generalizing a with
  | nil =>
    cases h
    exact ha
  | cons s steps ih =>
    rw [List.forall_mem_cons] at hs
    obtain ⟨c, hc, h⟩ := complete_cons.mp h
    exact ih (Step.reduced_of_apply hs.1 ha hc) hs.2 h

theorem reduced_of_complete (hs : ∀ s ∈ steps, s.IsOperation) (hreduces : ∃ s ∈ steps, s.Reduces)
    (h : complete a steps = .ok d) : d.Reduced := by
  induction steps generalizing a with
  | nil => simp at hreduces
  | cons s steps ih =>
    rw [List.forall_mem_cons] at hs
    obtain ⟨c, hc, hrest⟩ := complete_cons.mp h
    obtain ⟨t, hmem, ht⟩ := hreduces
    rcases List.mem_cons.mp hmem with rfl | hmem
    · exact reduced_of_complete_of_reduced (ht.reduced_of_apply hc) hs.2 hrest
    · exact ih hs.2 ⟨t, hmem, ht⟩ hrest

theorem abs_num_of_complete (hs : ∀ s ∈ steps, s.Signs) (h : complete a steps = .ok d) :
    |d.num| = |a.num| ∧ d.den = a.den := by
  induction steps generalizing a with
  | nil =>
    cases h
    exact ⟨rfl, rfl⟩
  | cons s steps ih =>
    rw [List.forall_mem_cons] at hs
    obtain ⟨c, hc, h⟩ := complete_cons.mp h
    obtain ⟨hn, hd⟩ := hs.1.abs_num_of_apply hc
    obtain ⟨hn', hd'⟩ := ih hs.2 h
    exact ⟨hn'.trans hn, hd'.trans hd⟩

end Dimensional.Exponent
