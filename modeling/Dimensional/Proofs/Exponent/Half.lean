import Mathlib.Data.Nat.Prime.Basic
import Mathlib.Tactic.NormNum
import Dimensional.Proofs.Exponent.Value

/-!
# Halves of exponents

The half of an odd numerator stands over a denominator twice as large, and this may be too large to be
stored. Every other half fits.
-/

namespace Dimensional.Exponent

/-- The half of the exponent fits: its numerator in lowest terms is even, or its denominator is small
enough to be doubled. -/
def Halves (a : Exponent) : Prop :=
  2 ∣ a.reduce.num ∨ a.reduce.den < 2 ^ 30

instance (a : Exponent) : Decidable a.Halves :=
  inferInstanceAs (Decidable (_ ∨ _))

theorem half_eq_div (a : Exponent) : a.value / 2 = (a.reduce.num : ℚ) / (2 * a.reduce.den : ℤ) := by
  rw [← a.value_reduce, value, div_div, mul_comm]
  push_cast
  rfl

theorem half_num_den_of_odd {a : Exponent} (h : ¬ 2 ∣ a.reduce.num) :
    (a.value / 2).num = a.reduce.num ∧ ((a.value / 2).den : ℤ) = 2 * a.reduce.den := by
  have hpos : 0 < 2 * a.reduce.den := by have := a.reduce.den_pos; omega
  have hodd : Nat.Coprime a.reduce.num.natAbs 2 :=
    (Nat.prime_two.coprime_iff_not_dvd.mpr (by omega)).symm
  have hgcd : Nat.Coprime a.reduce.num.natAbs (2 * a.reduce.den).natAbs := by
    rw [Int.natAbs_mul]
    exact Nat.Coprime.mul_right hodd a.reduced_reduce
  rw [half_eq_div]
  exact ⟨Rat.num_div_eq_of_coprime hpos hgcd, Rat.den_div_eq_of_coprime hpos hgcd⟩

theorem half_num_den_of_even {a : Exponent} {m : ℤ} (h : a.reduce.num = 2 * m) :
    (a.value / 2).num = m ∧ ((a.value / 2).den : ℤ) = a.reduce.den := by
  have hgcd : Nat.Coprime m.natAbs a.reduce.den.natAbs := by
    have := a.reduced_reduce
    rw [Reduced, h, Int.gcd, Int.natAbs_mul] at this
    exact Nat.Coprime.coprime_mul_left this
  have hhalf : a.value / 2 = (m : ℚ) / a.reduce.den := by
    rw [half_eq_div, h]
    push_cast
    exact mul_div_mul_left _ _ two_ne_zero
  rw [hhalf]
  exact ⟨Rat.num_div_eq_of_coprime a.reduce.den_pos hgcd,
    Rat.den_div_eq_of_coprime a.reduce.den_pos hgcd⟩

theorem fits_half_iff {a : Exponent} : Fits (a.value / 2) ↔ a.Halves := by
  have hge := a.reduce.num_ge
  have hlt := a.reduce.num_lt
  have hden := a.reduce.den_lt
  unfold Fits Halves
  by_cases h : 2 ∣ a.reduce.num
  · obtain ⟨m, hm⟩ := h
    obtain ⟨hn, hd⟩ := half_num_den_of_even hm
    rw [hn, hd]
    omega
  · obtain ⟨hn, hd⟩ := half_num_den_of_odd h
    rw [hn, hd]
    omega

theorem halve_of_halves {a : Exponent} (h : a.Halves) : ∃ c, a.halve = .ok c := by
  rw [halve_eq_ofValue]
  exact ofValue_of_fits (fits_half_iff.mpr h)

theorem halve_eq_error {a : Exponent} {f : Fault} :
    a.halve = .error f ↔ f = .outOfRange ∧ ¬ a.Halves := by
  rw [halve_eq_ofValue, ofValue_eq_error, fits_half_iff]

theorem halves_of_even {a : Exponent} {k : ℤ} (h : a.value = 2 * k) : a.Halves := by
  left
  obtain ⟨hn, -⟩ := a.reduce_num_den
  have hk : a.value = ((2 * k : ℤ) : ℚ) := by
    push_cast
    exact h
  rw [← hn, hk, Rat.num_intCast]
  exact dvd_mul_right 2 k

/-! ## Halving and doubling

Each undoes the other up to lowest terms, which always fit. -/

variable {a c : Exponent}

theorem halve_of_scale (h : a.scale 2 = .ok c) : c.halve = .ok a.reduce := by
  rw [halve_eq_ofValue, value_of_scale h, ← ofValue_value]
  congr 1
  push_cast
  ring

theorem scale_of_halve (h : a.halve = .ok c) : c.scale 2 = .ok a.reduce := by
  rw [scale_eq_ofValue, value_of_halve h, ← ofValue_value]
  congr 1
  push_cast
  ring

theorem add_self_of_halve (h : a.halve = .ok c) : c.add c = .ok a.reduce := by
  rw [add_eq_ofValue, value_of_halve h, ← ofValue_value, add_halves]

end Dimensional.Exponent
