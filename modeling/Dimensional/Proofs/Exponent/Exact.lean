import Dimensional.Proofs.Exponent.Half
import Dimensional.Proofs.Exponent.Machine

/-!
# Exact outcomes

Arithmetic stores the lowest terms of the exact result or stops, and it stops for one reason only: the
lowest terms do not fit. A change of sign keeps the denominator as it is, and stops exactly at the least
numerator.
-/

namespace Dimensional.Exponent

/-! ## Outcomes -/

/-- There is no result, and this text says why. -/
def StopsWith {α : Type} (r : Except Fault α) (text : String) : Prop :=
  ∃ f, r = .error f ∧ f.message = text

/-- The numbers of the exponent are the one fraction in lowest terms that is `q`. -/
structure StoresLowest (c : Exponent) (q : ℚ) : Prop where
  value : (c.num : ℚ) / c.den = q
  den_pos : 0 < c.den
  lowest : Int.gcd c.num c.den = 1
  unique : ∀ n d : ℤ, 0 < d → Int.gcd n d = 1 → (n : ℚ) / d = q → n = c.num ∧ d = c.den
  zero : q = 0 → c.num = 0 ∧ c.den = 1

/-- The outcome of a calculation whose exact result is `q`. -/
structure IsExact (q : ℚ) (r : Except Fault Exponent) : Prop where
  stored : Fits q → ∃ c, r = .ok c ∧ c.StoresLowest q
  refused : ¬ Fits q → StopsWith r "rational exponent out of range"

/-- The outcome of changing the sign of `a` so that its numerator becomes `n`. -/
structure IsTurned (a : Exponent) (n : ℤ) (r : Except Fault Exponent) : Prop where
  stored : a.num ≠ -2 ^ 31 → ∃ c, r = .ok c ∧ c.num = n ∧ c.den = a.den
  refused : a.num = -2 ^ 31 → StopsWith r "attempt to negate with overflow"

variable {a b c : Exponent} {q : ℚ}

theorem storesLowest_of_reduced (hq : c.value = q) (h : c.Reduced) : c.StoresLowest q where
  value := hq
  den_pos := c.den_pos
  lowest := h
  unique n d hd hgcd hnd := by
    obtain ⟨hn, hc⟩ := reduced_value h
    rw [hq, ← hnd] at hn hc
    exact ⟨(Rat.num_div_eq_of_coprime hd hgcd).symm.trans hn,
      (Rat.den_div_eq_of_coprime hd hgcd).symm.trans hc⟩
  zero hzero := by
    obtain ⟨hn, hc⟩ := reduced_value h
    rw [hq, hzero] at hn hc
    exact ⟨hn.symm, hc.symm⟩

theorem isExact_ofValue (q : ℚ) : IsExact q (ofValue q) where
  stored h := by
    obtain ⟨c, hc⟩ := ofValue_of_fits h
    obtain ⟨hq, hreduced⟩ := ofValue_eq_ok.mp hc
    exact ⟨c, hc, storesLowest_of_reduced hq hreduced⟩
  refused h := ⟨.outOfRange, ofValue_of_not_fits h, rfl⟩

theorem halve_stops_iff :
    StopsWith a.halve "rational exponent out of range" ↔ ¬ 2 ∣ a.reduce.num ∧ 2 ^ 30 ≤ a.reduce.den := by
  have hlarge : ¬ a.Halves ↔ ¬ 2 ∣ a.reduce.num ∧ 2 ^ 30 ≤ a.reduce.den := by
    rw [Halves, not_or, not_lt]
  rw [← hlarge]
  constructor
  · rintro ⟨f, hf, -⟩
    exact (halve_eq_error.mp hf).2
  · intro h
    exact ⟨.outOfRange, halve_eq_error.mpr ⟨rfl, h⟩, rfl⟩

/-! ## Signs -/

theorem isTurned_neg (a : Exponent) : IsTurned a (-a.num) a.neg where
  stored h := by
    unfold neg
    rw [dif_neg h]
    exact ⟨_, rfl, rfl, rfl⟩
  refused h := by
    unfold neg
    rw [dif_pos h]
    exact ⟨.negationOverflow, rfl, rfl⟩

theorem isTurned_abs (a : Exponent) : IsTurned a |a.num| a.abs := by
  unfold abs
  split_ifs with hneg
  · rw [abs_of_neg hneg]
    exact isTurned_neg a
  · exact ⟨fun _ => ⟨a, rfl, (abs_of_nonneg (not_lt.mp hneg)).symm, rfl⟩, fun h => by omega⟩

/-! ## Differences -/

theorem neg_eq_error {f : Fault} : a.neg = .error f ↔ f = .negationOverflow ∧ a.num = -2 ^ 31 := by
  unfold neg
  split_ifs with h
  · rw [and_iff_left h, Except.error.injEq, eq_comm]
  · simp only [h, and_false]

theorem sub_eq_ofValue (h : b.num ≠ -2 ^ 31) : a.sub b = ofValue (a.value - b.value) := by
  obtain ⟨c, hc, -⟩ := (isTurned_neg b).stored h
  rw [sub, hc, sub_eq_add_neg, ← value_of_neg hc]
  exact add_eq_ofValue a c

theorem sub_of_least (h : b.num = -2 ^ 31) : a.sub b = .error .negationOverflow := by
  rw [sub, neg_eq_error.mpr ⟨rfl, h⟩]
  rfl

theorem sub_self_of_ne (h : a.num ≠ -2 ^ 31) : a.sub a = .ok zero := by
  rw [sub_eq_ofValue h, sub_self]
  exact ofValue_eq_ok.mpr ⟨value_zero, rfl⟩

theorem sub_of_add (hc : a.add b = .ok c) (h : b.num ≠ -2 ^ 31) : c.sub b = .ok a.reduce := by
  rw [sub_eq_ofValue h, value_of_add hc, add_sub_cancel_right]
  exact ofValue_value a

/-! ## All operations -/

/-- Sums, products, halves and lowest terms are exact or stop out of range. A half is out of range only for
an odd numerator over a large denominator, and lowest terms never are. The signs alone are turned over the
denominator as it is stored. Worked out step by step in 64 bits, the results are the same, and no number on
the way to them is too large. -/
theorem arithmetic_exact (a b : Exponent) (k : ℤ) :
    IsExact (a.value + b.value) (a.add b) ∧
    IsExact (a.value * k) (a.scale k) ∧
    IsExact (a.value / 2) a.halve ∧
    (StopsWith a.halve "rational exponent out of range" ↔ ¬ 2 ∣ a.reduce.num ∧ 2 ^ 30 ≤ a.reduce.den) ∧
    a.reduce.StoresLowest a.value ∧
    IsTurned a (-a.num) a.neg ∧
    IsTurned a |a.num| a.abs ∧
    Machine.add a.numbers b.numbers = Machine.outcome (a.add b) ∧
    (-2 ^ 31 ≤ k ∧ k < 2 ^ 31 → Machine.scale a.numbers k = Machine.outcome (a.scale k)) ∧
    Machine.halve a.numbers = Machine.outcome a.halve ∧
    Machine.reduce a.numbers = .ok a.reduce.numbers := by
  refine ⟨?_, ?_, ?_, halve_stops_iff, storesLowest_of_reduced a.value_reduce a.reduced_reduce,
    isTurned_neg a, isTurned_abs a, Machine.add_eq a b, Machine.scale_eq a, Machine.halve_eq a,
    Machine.reduce_eq a⟩
  · rw [add_eq_ofValue]
    exact isExact_ofValue _
  · rw [scale_eq_ofValue]
    exact isExact_ofValue _
  · rw [halve_eq_ofValue]
    exact isExact_ofValue _

theorem arithmetic_exact_largest :
    let a : Exponent := ⟨2 ^ 31 - 1, 2 ^ 30, by decide, by decide, by decide, by decide⟩
    (-2 ^ 31 ≤ (-2 ^ 31 : ℤ) ∧ (-2 ^ 31 : ℤ) < 2 ^ 31) ∧
    Machine.scale a.numbers (-2 ^ 31) = Machine.outcome (a.scale (-2 ^ 31)) ∧
    numbersOf (a.scale (-2 ^ 31)) = .error .outOfRange ∧
    numbersOf (a.scale (2 ^ 30)) = .ok (2 ^ 31 - 1, 1) ∧
    StopsWith a.halve "rational exponent out of range" := by
  intro a
  have hk : -2 ^ 31 ≤ (-2 ^ 31 : ℤ) ∧ (-2 ^ 31 : ℤ) < 2 ^ 31 := by decide
  obtain ⟨-, -, -, hhalve, -, -, -, -, hscale, -⟩ := arithmetic_exact a a (-2 ^ 31)
  exact ⟨hk, hscale hk, by decide +kernel, by decide +kernel, hhalve.mpr (by decide +kernel)⟩

end Dimensional.Exponent
