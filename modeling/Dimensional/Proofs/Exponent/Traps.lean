import Dimensional.Proofs.Exponent.Exact

/-!
# What stops an exponent

The exact operations refuse nothing but a result that cannot be stored. So the check of the result is the
only trap on the machine, next to the least numerator, which has no negative.
-/

namespace Dimensional.Exponent.Machine

variable {n d : ℤ} (a b : Exponent)

/-! ## Traps -/

theorem outcome_eq_error {r : Except Fault Exponent} {t : Trap} :
    outcome r = .error t ↔ ∃ f, r = .error f ∧ .ofFault f = t := by
  simp only [outcome, numbersOf, Outcome.mapError_eq_error, Outcome.map_eq_error]

theorem outOfRange_of_ofValue {q : ℚ} {t : Trap} (h : outcome (ofValue q) = .error t) :
    t = .refused .outOfRange := by
  obtain ⟨f, hf, rfl⟩ := outcome_eq_error.mp h
  rw [(ofValue_eq_error.mp hf).1]
  rfl

theorem neg_eq_error {t : Trap} : neg a.numbers = .error t ↔ t = .overflow 32 ∧ a.num = -2 ^ 31 := by
  rw [neg_eq, outcome_eq_error]
  simp only [Exponent.neg_eq_error]
  constructor
  · rintro ⟨_, ⟨rfl, hmin⟩, rfl⟩
    exact ⟨rfl, hmin⟩
  · rintro ⟨rfl, hmin⟩
    exact ⟨_, ⟨rfl, hmin⟩, rfl⟩

theorem abs_eq_error {t : Trap} : abs a.numbers = .error t ↔ t = .overflow 32 ∧ a.num = -2 ^ 31 := by
  rw [← neg_eq_error]
  unfold abs
  split_ifs with hneg
  · rfl
  · have hmin : a.num ≠ -2 ^ 31 := fun h => hneg (h.trans_lt (by decide))
    simp only [neg_eq_error, hmin, and_false]

theorem sub_eq_error {t : Trap} (h : sub a.numbers b.numbers = .error t) :
    t = .refused .outOfRange ∨ t = .overflow 32 ∧ b.num = -2 ^ 31 := by
  rw [sub_eq] at h
  by_cases hmin : b.num = -2 ^ 31
  · rw [sub_of_least hmin] at h
    cases h
    exact .inr ⟨rfl, hmin⟩
  · rw [sub_eq_ofValue hmin] at h
    exact .inl (outOfRange_of_ofValue h)

/-- Step by step, each operation has the outcome of the exact one. -/
structure Agrees (a b : Exponent) (k : ℤ) : Prop where
  add : Machine.add a.numbers b.numbers = outcome (a.add b)
  sub : Machine.sub a.numbers b.numbers = outcome (a.sub b)
  neg : Machine.neg a.numbers = outcome a.neg
  abs : Machine.abs a.numbers = outcome a.abs
  scale : Machine.scale a.numbers k = outcome (a.scale k)
  halve : Machine.halve a.numbers = outcome a.halve
  reduce : Machine.reduce a.numbers = .ok a.reduce.numbers
  equals : Machine.equals a.numbers b.numbers = .ok (decide (a.Matches b))
  isInteger : Machine.isInteger a.numbers = .ok (decide a.IsInteger)

/-- The traps that there are: the check of a result, and the negative of the least numerator. -/
structure TrapsAtEnds (a b : Exponent) (k : ℤ) : Prop where
  add : ∀ t, Machine.add a.numbers b.numbers = .error t → t = .refused .outOfRange
  scale : ∀ t, Machine.scale a.numbers k = .error t → t = .refused .outOfRange
  halve : ∀ t, Machine.halve a.numbers = .error t → t = .refused .outOfRange
  neg : ∀ t, Machine.neg a.numbers = .error t ↔ t = .overflow 32 ∧ a.num = -2 ^ 31
  abs : ∀ t, Machine.abs a.numbers = .error t ↔ t = .overflow 32 ∧ a.num = -2 ^ 31
  sub : ∀ t, Machine.sub a.numbers b.numbers = .error t →
    t = .refused .outOfRange ∨ t = .overflow 32 ∧ b.num = -2 ^ 31

/-- The loop ends with the greatest common divisor of `n` and `d`, and both are multiples of it. -/
structure DividesOut (n d g : ℤ) : Prop where
  found : divisor n d = .ok g
  pos : 0 < g
  greatest : ∀ m, m ∣ g ↔ m ∣ n ∧ m ∣ d
  num : ∃ q, quotient 64 n g = .ok q ∧ q * g = n
  den : ∃ q, quotient 64 d g = .ok q ∧ q * g = d

theorem dividesOut_gcd (hn : |n| < 2 ^ 63) (hpos : 0 < d) (hd : d < 2 ^ 63) :
    DividesOut n d (Int.gcd n d) := by
  have hd' : |d| < 2 ^ 63 := by rwa [abs_of_pos hpos]
  have hgcd := coe_gcd_pos n hpos
  exact {
    found := divisor_eq hn hd'
    pos := hgcd
    greatest := fun m => Int.dvd_coe_gcd_iff
    num := ⟨_, quotient_of_dvd hn hgcd (Int.gcd_dvd_left ..), Int.ediv_mul_cancel (Int.gcd_dvd_left ..)⟩
    den := ⟨_, quotient_of_dvd hd' hgcd (Int.gcd_dvd_right ..), Int.ediv_mul_cancel (Int.gcd_dvd_right ..)⟩ }

/-- The operations on stored numbers and on 64 bits have the outcomes of the exact ones, so no product, sum or
negation on the way overflows and nothing is divided by zero. Common divisors are found by a loop whose every
turn leaves a smaller number, and they divide without a remainder. All that can stop an operation is the check
of its result, and a change of sign where the least numerator is stored. -/
theorem arithmetic_traps (a b : Exponent) {k : ℤ} (hk : HasBits 32 k) :
    Agrees a b k ∧ TrapsAtEnds a b k ∧
    (∀ n d, |n| < 2 ^ 63 → 0 < d → d < 2 ^ 63 → ∃ g, DividesOut n d g) ∧
    ∀ n m, 0 ≤ n → n < 2 ^ 63 → 0 < m →
      ∃ r, remainder 64 n m = .ok r ∧ 0 ≤ r ∧ r < m ∧ Int.gcd m r = Int.gcd n m := by
  refine ⟨?_, ?_, fun n d hn hpos hd => ⟨_, dividesOut_gcd hn hpos hd⟩, fun n m => exists_remainder⟩
  · exact ⟨add_eq a b, sub_eq a b, neg_eq a, abs_eq a, scale_eq a hk, halve_eq a, reduce_eq a, equals_eq a b,
      isInteger_eq a⟩
  · refine ⟨fun t h => ?_, fun t h => ?_, fun t h => ?_, fun t => neg_eq_error a, fun t => abs_eq_error a,
      fun t => sub_eq_error a b⟩
    · rw [add_eq, add_eq_ofValue] at h
      exact outOfRange_of_ofValue h
    · rw [scale_eq a hk, scale_eq_ofValue] at h
      exact outOfRange_of_ofValue h
    · rw [halve_eq, halve_eq_ofValue] at h
      exact outOfRange_of_ofValue h

theorem arithmetic_traps_least :
    let a : Exponent := ⟨-2 ^ 31, 2 ^ 31 - 1, by decide, by decide, by decide, by decide⟩
    HasBits 32 (-2 ^ 31) ∧ add a.numbers a.numbers = .error (.refused .outOfRange) ∧
      scale a.numbers (-2 ^ 31) = .error (.refused .outOfRange) ∧ sub a.numbers a.numbers = .error (.overflow 32) ∧
      equals a.numbers a.numbers = .ok true ∧ (∃ g, DividesOut (-2 ^ 63 + 2 ^ 32) ((2 ^ 31 - 1) ^ 2) g) ∧
      ∃ r, remainder 64 (2 ^ 63 - 2 ^ 32) ((2 ^ 31 - 1) ^ 2) = .ok r ∧ r < (2 ^ 31 - 1) ^ 2 := by
  intro a
  have hk : HasBits 32 (-2 ^ 31) := by decide
  obtain ⟨hagrees, -, hdivides, hturn⟩ := arithmetic_traps a a hk
  have hadd : outcome (a.add a) = .error (.refused .outOfRange) := by decide +kernel
  have hscale : outcome (a.scale (-2 ^ 31)) = .error (.refused .outOfRange) := by decide +kernel
  have hsub : outcome (a.sub a) = .error (.overflow 32) := by decide +kernel
  obtain ⟨r, hr, -, hlt, -⟩ := hturn (2 ^ 63 - 2 ^ 32) ((2 ^ 31 - 1) ^ 2) (by decide) (by decide) (by decide)
  exact ⟨hk, hagrees.add.trans hadd, hagrees.scale.trans hscale, hagrees.sub.trans hsub,
    hagrees.equals.trans (by decide +kernel), hdivides _ _ (by decide) (by decide) (by decide), r, hr, hlt⟩

end Dimensional.Exponent.Machine
