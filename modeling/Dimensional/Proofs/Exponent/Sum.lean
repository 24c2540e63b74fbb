import Mathlib.Algebra.BigOperators.Group.List.Basic
import Mathlib.Data.List.Forall2
import Dimensional.Proofs.Exponent.Calculation

/-!
# Sums of many exponents

A calculation that only adds and subtracts stores the lowest terms of an exact sum, unless a step stops
it. So the result depends neither on the order of the steps nor on the form in which their operands are
stored.
-/

namespace Dimensional.Exponent

/-! ## Steps -/

namespace Step

/-- The step adds or subtracts. -/
inductive IsSum : Step → Prop where
  | add (b : Exponent) : IsSum (add b)
  | sub (b : Exponent) : IsSum (sub b)

/-- What a sum changes in the value. -/
def change : Step → ℚ
  | add b => b.value
  | sub b => -b.value
  | _ => 0

/-- Both steps add or both subtract, and their operands have one value. -/
inductive Agrees : Step → Step → Prop where
  | add {b c : Exponent} (h : b.Matches c) : Agrees (add b) (add c)
  | sub {b c : Exponent} (h : b.Matches c) : Agrees (sub b) (sub c)

variable {s t : Step}

theorem IsSum.reduces (hs : s.IsSum) : s.Reduces := by
  cases hs with
  | add b => exact .add b
  | sub b => exact .sub b

theorem IsSum.exact_eq (hs : s.IsSum) (q : ℚ) : exact q s = q + s.change := by
  cases hs with
  | add b => rfl
  | sub b => exact sub_eq_add_neg q b.value

theorem Agrees.isSum (h : s.Agrees t) : s.IsSum ∧ t.IsSum := by
  cases h with
  | add => exact ⟨.add _, .add _⟩
  | sub => exact ⟨.sub _, .sub _⟩

theorem Agrees.change_eq (h : s.Agrees t) : s.change = t.change := by
  cases h with
  | add h => rw [change, change, matches_iff_value_eq.mp h]
  | sub h => rw [change, change, matches_iff_value_eq.mp h]

end Step

/-! ## Calculations -/

variable {a c d : Exponent} {steps ordered steps' : List Step}

theorem foldl_exact_of_sums (hs : ∀ s ∈ steps, s.IsSum) (q : ℚ) :
    steps.foldl Step.exact q = q + (steps.map Step.change).sum := by
  induction steps generalizing q with
  | nil => simp
  | cons s steps ih =>
    rw [List.forall_mem_cons] at hs
    rw [List.foldl_cons, ih hs.2, hs.1.exact_eq, List.map_cons, List.sum_cons, add_assoc]

theorem value_of_sums (hs : ∀ s ∈ steps, s.IsSum) (h : complete a steps = .ok d) :
    d.value = a.value + (steps.map Step.change).sum := by
  rw [value_of_complete h, foldl_exact_of_sums hs]

theorem reduced_of_sums (hne : steps ≠ []) (hs : ∀ s ∈ steps, s.IsSum)
    (h : complete a steps = .ok d) : d.Reduced := by
  obtain ⟨s, hmem⟩ := List.exists_mem_of_ne_nil steps hne
  exact reduced_of_complete (fun t ht => .inl (hs t ht).reduces) ⟨s, hmem, (hs s hmem).reduces⟩ h

/-! ## Other orders and other forms -/

theorem isSum_of_agrees (h : List.Forall₂ Step.Agrees ordered steps') :
    (∀ s ∈ ordered, s.IsSum) ∧ ∀ s ∈ steps', s.IsSum := by
  induction h with
  | nil => simp
  | cons hs _ ih =>
    rw [List.forall_mem_cons, List.forall_mem_cons]
    exact ⟨⟨hs.isSum.1, ih.1⟩, hs.isSum.2, ih.2⟩

theorem map_change_eq (h : List.Forall₂ Step.Agrees ordered steps') :
    ordered.map Step.change = steps'.map Step.change := by
  induction h with
  | nil => rfl
  | cons hs _ ih => rw [List.map_cons, List.map_cons, hs.change_eq, ih]

theorem complete_eq (horder : steps.Perm ordered) (hforms : List.Forall₂ Step.Agrees ordered steps')
    (hc : complete a steps = .ok c) (hd : complete a steps' = .ok d) : c = d := by
  obtain ⟨hordered, hsteps'⟩ := isSum_of_agrees hforms
  have hsteps : ∀ s ∈ steps, s.IsSum := fun s hs => hordered s (horder.mem_iff.mp hs)
  cases steps with
  | nil =>
    cases horder.nil_eq
    cases hforms
    exact Except.ok.inj (hc.symm.trans hd)
  | cons s steps =>
    have hne : steps' ≠ [] := by
      rintro rfl
      cases hforms
      simpa using horder.length_eq
    refine eq_of_value_eq (reduced_of_sums (List.cons_ne_nil s steps) hsteps hc)
      (reduced_of_sums hne hsteps' hd) ?_
    calc c.value = a.value + ((s :: steps).map Step.change).sum := value_of_sums hsteps hc
      _ = a.value + (ordered.map Step.change).sum := by rw [(horder.map Step.change).sum_eq]
      _ = a.value + (steps'.map Step.change).sum := by rw [map_change_eq hforms]
      _ = d.value := (value_of_sums hsteps' hd).symm

end Dimensional.Exponent
