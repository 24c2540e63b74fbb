import Mathlib.Algebra.Order.Field.Rat
import Mathlib.Data.Rat.Lemmas
import Mathlib.Algebra.Order.Field.Basic
import Mathlib.Tactic.Linarith
import Mathlib.Tactic.Ring
import Dimensional.Exponent.Basic
import Dimensional.Outcome

/-!
# The value of an exponent

An exponent stands for a rational number. Every operation is exact: it stores the lowest terms of the
rational result, or stops because they do not fit.
-/

namespace Dimensional.Exponent

/-- The rational number that an exponent stands for. -/
def value (a : Exponent) : ℚ := (a.num : ℚ) / a.den

/-- The lowest terms of a rational number fit the stored numbers. -/
def Fits (q : ℚ) : Prop :=
  (-2 ^ 31 ≤ q.num ∧ q.num < 2 ^ 31) ∧ (q.den : ℤ) < 2 ^ 31

instance (q : ℚ) : Decidable (Fits q) :=
  inferInstanceAs (Decidable (_ ∧ _))

/-- The stored numbers have no common factor. -/
def Reduced (a : Exponent) : Prop := Int.gcd a.num a.den = 1

/-- The exponent that stores the lowest terms of a rational number, if they fit. -/
def ofValue (q : ℚ) : Except Fault Exponent := store q.num q.den

/-! ## Stored numbers and values -/

theorem den_ne_zero (a : Exponent) : (a.den : ℚ) ≠ 0 := by
  exact_mod_cast Int.ne_of_gt a.den_pos

theorem value_eq_div {a : Exponent} {n d : ℤ} (hn : a.num = n) (hd : a.den = d) :
    a.value = (n : ℚ) / d := by
  rw [value, hn, hd]

@[simp]
theorem value_zero : value zero = 0 := by
  simp [value, zero, whole]

@[simp]
theorem value_whole (n : ℤ) (h : -2 ^ 31 ≤ n ∧ n < 2 ^ 31) : (whole n h).value = n := by
  simp [value, whole]

theorem matches_iff_value_eq {a b : Exponent} : a.Matches b ↔ a.value = b.value := by
  rw [value, value, div_eq_div_iff a.den_ne_zero b.den_ne_zero]
  unfold Matches
  exact_mod_cast Iff.rfl

theorem isZero_iff_value {a : Exponent} : a.IsZero ↔ a.value = 0 := by
  rw [value, div_eq_zero_iff, or_iff_left a.den_ne_zero]
  exact_mod_cast Iff.rfl

theorem isPositive_iff_value {a : Exponent} : a.IsPositive ↔ 0 < a.value := by
  have hd : (0 : ℚ) < a.den := by exact_mod_cast a.den_pos
  rw [value, div_pos_iff_of_pos_right hd]
  exact_mod_cast Iff.rfl

theorem isNegative_iff_value {a : Exponent} : a.IsNegative ↔ a.value < 0 := by
  have hd : (0 : ℚ) < a.den := by exact_mod_cast a.den_pos
  rw [value, div_neg_iff]
  simp only [hd, not_lt.mpr hd.le, and_true, and_false, false_or]
  exact_mod_cast Iff.rfl

theorem isInteger_iff_value {a : Exponent} : a.IsInteger ↔ ∃ k : ℤ, a.value = k := by
  unfold IsInteger
  rw [← Int.dvd_iff_emod_eq_zero]
  constructor
  · rintro ⟨k, hk⟩
    refine ⟨k, ?_⟩
    rw [value, hk, Int.cast_mul, mul_div_cancel_left₀ _ a.den_ne_zero]
  · rintro ⟨k, hk⟩
    refine ⟨k, ?_⟩
    rw [value, div_eq_iff a.den_ne_zero] at hk
    rw [mul_comm]
    exact_mod_cast hk

theorem isOne_iff_value {a : Exponent} : a.IsOne ↔ a.value = 1 := by
  rw [value, div_eq_one_iff_eq a.den_ne_zero]
  exact_mod_cast Iff.rfl

/-! ## Lowest terms -/

theorem reduced_value {a : Exponent} (h : a.Reduced) :
    a.value.num = a.num ∧ (a.value.den : ℤ) = a.den :=
  ⟨Rat.num_div_eq_of_coprime a.den_pos h, Rat.den_div_eq_of_coprime a.den_pos h⟩

theorem eq_of_num_den {a b : Exponent} (hn : a.num = b.num) (hd : a.den = b.den) : a = b := by
  cases a
  cases b
  simp only [mk.injEq]
  exact ⟨hn, hd⟩

theorem eq_of_value_eq {a b : Exponent} (ha : a.Reduced) (hb : b.Reduced)
    (h : a.value = b.value) : a = b := by
  obtain ⟨hna, hda⟩ := reduced_value ha
  obtain ⟨hnb, hdb⟩ := reduced_value hb
  rw [h] at hna hda
  exact eq_of_num_den (hna.symm.trans hnb) (hda.symm.trans hdb)

theorem divInt_num_den {n d : ℤ} (hd : 0 < d) :
    ((n : ℚ) / d).num = n / Int.gcd n d ∧ (((n : ℚ) / d).den : ℤ) = d / Int.gcd n d := by
  rw [← Rat.divInt_eq_div, Rat.num_divInt, Rat.den_divInt, Int.sign_eq_one_of_pos hd, one_mul,
    if_neg (Int.ne_of_gt hd), Int.gcd_comm d n, Int.natCast_ediv, Int.natAbs_of_nonneg hd.le]
  exact ⟨rfl, rfl⟩

theorem reduce_num_den (a : Exponent) :
    a.value.num = a.reduce.num ∧ (a.value.den : ℤ) = a.reduce.den :=
  divInt_num_den a.den_pos

@[simp]
theorem value_reduce (a : Exponent) : a.reduce.value = a.value := by
  obtain ⟨hn, hd⟩ := a.reduce_num_den
  rw [value_eq_div hn.symm hd.symm]
  exact_mod_cast Rat.num_div_den a.value

theorem reduced_reduce (a : Exponent) : a.reduce.Reduced := by
  obtain ⟨hn, hd⟩ := a.reduce_num_den
  rw [Reduced, ← hn, ← hd]
  exact a.value.reduced

theorem reduce_eq_iff_value_eq {a b : Exponent} : a.reduce = b.reduce ↔ a.value = b.value := by
  constructor
  · intro h
    rw [← value_reduce a, h, value_reduce]
  · intro h
    exact eq_of_value_eq a.reduced_reduce b.reduced_reduce (by simpa using h)

/-! ## Results of arithmetic -/

theorem store_eq_ok {n d : ℤ} {a : Exponent} : store n d = .ok a ↔ a.num = n ∧ a.den = d := by
  unfold store
  split
  · cases a
    simp [eq_comm]
  · rename_i h
    simp only [reduceCtorEq, false_iff]
    rintro ⟨rfl, rfl⟩
    exact h ⟨⟨a.num_ge, a.num_lt⟩, a.den_pos, a.den_lt⟩

/-- A written pair keeps its numbers but for the sign of the denominator, which goes to the numerator. -/
theorem ofPair_eq_ok {n d : ℤ} {a : Exponent} :
    ofPair n d = .ok a ↔ d ≠ 0 ∧ a.num = d.sign * n ∧ a.den = |d| := by
  have hge := a.num_ge
  have hlt := a.num_lt
  have hden := a.den_lt
  unfold ofPair
  split_ifs with hzero hneg
  · simp [hzero]
  · simp only [Outcome.bind_eq_ok, negate_eq_ok, store_eq_ok, Int.sign_eq_neg_one_of_neg hneg,
      abs_of_neg hneg]
    constructor
    · rintro ⟨m, ⟨-, rfl⟩, e, ⟨-, rfl⟩, hn, hd⟩
      exact ⟨hzero, by omega, hd⟩
    · rintro ⟨-, hn, hd⟩
      exact ⟨-n, ⟨by omega, rfl⟩, -d, ⟨by omega, rfl⟩, by omega, hd⟩
  · have hpos : 0 < d := by omega
    rw [store_eq_ok, Int.sign_eq_one_of_pos hpos, abs_of_pos hpos, one_mul]
    exact (and_iff_right hzero).symm

theorem ofPair_stored (a : Exponent) : ofPair a.num a.den = .ok a := by
  rw [ofPair_eq_ok, Int.sign_eq_one_of_pos a.den_pos, abs_of_pos a.den_pos, one_mul]
  exact ⟨Int.ne_of_gt a.den_pos, rfl, rfl⟩

theorem value_of_ofPair {n d : ℤ} {a : Exponent} (h : ofPair n d = .ok a) : a.value = (n : ℚ) / d := by
  obtain ⟨hzero, hn, hd⟩ := ofPair_eq_ok.mp h
  rw [value_eq_div hn hd]
  rcases lt_or_gt_of_ne hzero with hneg | hpos
  · rw [Int.sign_eq_neg_one_of_neg hneg, abs_of_neg hneg, neg_one_mul]
    push_cast
    exact neg_div_neg_eq _ _
  · rw [Int.sign_eq_one_of_pos hpos, abs_of_pos hpos, one_mul]

theorem abs_num_of_ofPair {n d : ℤ} {a : Exponent} (h : ofPair n d = .ok a) :
    |a.num| = |n| ∧ a.den = |d| := by
  obtain ⟨hzero, hn, hd⟩ := ofPair_eq_ok.mp h
  exact ⟨by rw [hn, abs_mul, Int.abs_sign_of_ne_zero hzero, one_mul], hd⟩

theorem ofValue_eq_ok {q : ℚ} {a : Exponent} : ofValue q = .ok a ↔ a.value = q ∧ a.Reduced := by
  rw [ofValue, store_eq_ok]
  constructor
  · rintro ⟨hn, hd⟩
    refine ⟨?_, ?_⟩
    · rw [value_eq_div hn hd]
      exact_mod_cast Rat.num_div_den q
    · rw [Reduced, hn, hd]
      exact q.reduced
  · rintro ⟨rfl, h⟩
    obtain ⟨hn, hd⟩ := reduced_value h
    exact ⟨hn.symm, hd.symm⟩

theorem ofValue_value (a : Exponent) : ofValue a.value = .ok a.reduce :=
  ofValue_eq_ok.mpr ⟨a.value_reduce, a.reduced_reduce⟩

theorem ofValue_of_fits {q : ℚ} (h : Fits q) : ∃ a, ofValue q = .ok a := by
  have hd : (0 : ℤ) < q.den := by exact_mod_cast q.den_pos
  exact ⟨_, dif_pos ⟨h.1, hd, h.2⟩⟩

theorem ofValue_of_not_fits {q : ℚ} (h : ¬ Fits q) : ofValue q = .error .outOfRange := by
  have hn : ¬ ((-2 ^ 31 ≤ q.num ∧ q.num < 2 ^ 31) ∧ (0 : ℤ) < q.den ∧ (q.den : ℤ) < 2 ^ 31) :=
    fun hs => h ⟨hs.1, hs.2.2⟩
  exact dif_neg hn

theorem ofValue_eq_error {q : ℚ} {f : Fault} :
    ofValue q = .error f ↔ f = .outOfRange ∧ ¬ Fits q := by
  by_cases h : Fits q
  · obtain ⟨a, ha⟩ := ofValue_of_fits h
    simp [ha, h]
  · simp [ofValue_of_not_fits h, h, eq_comm]

theorem ofFraction_reduce (a : Exponent) : ofFraction a.num a.den = .ok a.reduce :=
  store_eq_ok.mpr ⟨rfl, rfl⟩

theorem ofFraction_eq_ofValue {n d : ℤ} (hd : 0 < d) : ofFraction n d = ofValue ((n : ℚ) / d) := by
  obtain ⟨hn, hd'⟩ := divInt_num_den (n := n) hd
  rw [ofFraction, ofValue, hn, hd']

theorem add_eq_ofValue (a b : Exponent) : a.add b = ofValue (a.value + b.value) := by
  rw [add, ofFraction_eq_ofValue (mul_pos a.den_pos b.den_pos), value, value,
    div_add_div _ _ a.den_ne_zero b.den_ne_zero]
  congr 1
  push_cast
  ring

theorem scale_eq_ofValue (a : Exponent) (k : ℤ) : a.scale k = ofValue (a.value * k) := by
  rw [scale, ofFraction_eq_ofValue a.den_pos, value, div_mul_eq_mul_div]
  push_cast
  rfl

theorem halve_eq_ofValue (a : Exponent) : a.halve = ofValue (a.value / 2) := by
  rw [halve, ofFraction_eq_ofValue (mul_pos a.den_pos (by norm_num)), value, div_div]
  push_cast
  rfl

/-! ## Results are in lowest terms -/

theorem reduced_of_add {a b c : Exponent} (h : a.add b = .ok c) : c.Reduced := by
  rw [add_eq_ofValue] at h
  exact (ofValue_eq_ok.mp h).2

theorem reduced_of_scale {a c : Exponent} {k : ℤ} (h : a.scale k = .ok c) : c.Reduced := by
  rw [scale_eq_ofValue] at h
  exact (ofValue_eq_ok.mp h).2

theorem reduced_of_halve {a c : Exponent} (h : a.halve = .ok c) : c.Reduced := by
  rw [halve_eq_ofValue] at h
  exact (ofValue_eq_ok.mp h).2

/-! ## What a result stands for -/

theorem value_of_add {a b c : Exponent} (h : a.add b = .ok c) : c.value = a.value + b.value := by
  rw [add_eq_ofValue] at h
  exact (ofValue_eq_ok.mp h).1

theorem value_of_scale {a c : Exponent} {k : ℤ} (h : a.scale k = .ok c) : c.value = a.value * k := by
  rw [scale_eq_ofValue] at h
  exact (ofValue_eq_ok.mp h).1

theorem value_of_halve {a c : Exponent} (h : a.halve = .ok c) : c.value = a.value / 2 := by
  rw [halve_eq_ofValue] at h
  exact (ofValue_eq_ok.mp h).1

theorem neg_eq_ok {a c : Exponent} : a.neg = .ok c ↔ c.num = -a.num ∧ c.den = a.den := by
  unfold neg
  split
  · rename_i h
    have := c.num_lt
    simp only [reduceCtorEq, false_iff, not_and]
    intro hc
    omega
  · cases c
    simp [eq_comm]

theorem value_of_neg {a c : Exponent} (h : a.neg = .ok c) : c.value = -a.value := by
  obtain ⟨hn, hd⟩ := neg_eq_ok.mp h
  rw [value_eq_div hn hd, value]
  push_cast
  ring

theorem abs_eq_ok {a c : Exponent} : a.abs = .ok c ↔ c.num = |a.num| ∧ c.den = a.den := by
  unfold abs
  split_ifs with hneg
  · rw [neg_eq_ok, abs_of_neg hneg]
  · rw [abs_of_nonneg (not_lt.mp hneg), Except.ok.injEq]
    constructor
    · rintro rfl
      exact ⟨rfl, rfl⟩
    · rintro ⟨hn, hd⟩
      exact eq_of_num_den hn.symm hd.symm

theorem value_of_abs {a c : Exponent} (h : a.abs = .ok c) : c.value = |a.value| := by
  obtain ⟨hn, hd⟩ := abs_eq_ok.mp h
  have hpos : (0 : ℚ) < a.den := by exact_mod_cast a.den_pos
  rw [value_eq_div hn hd, value, abs_div, abs_of_pos hpos]
  push_cast
  rfl

theorem value_of_sub {a b c : Exponent} (h : a.sub b = .ok c) : c.value = a.value - b.value := by
  obtain ⟨b', hb, h⟩ := Outcome.bind_eq_ok.mp h
  rw [value_of_add h, value_of_neg hb, sub_eq_add_neg]

theorem reduced_of_sub {a b c : Exponent} (h : a.sub b = .ok c) : c.Reduced := by
  obtain ⟨b', -, h⟩ := Outcome.bind_eq_ok.mp h
  exact reduced_of_add h

end Dimensional.Exponent
