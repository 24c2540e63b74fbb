import Mathlib.Algebra.Order.Group.Unbundled.Int
import Mathlib.Algebra.Order.Ring.Abs
import Mathlib.Data.Int.Basic
import Mathlib.Tactic.SplitIfs
import Dimensional.Proofs.Exponent.Value

/-!
# Exponents on a machine

The numbers of an exponent have 32 bits, and most of the work on them is done in 64. A step traps if its
result has more bits, or if it divides by zero. Taken step by step, each operation has the outcome of the exact
one, so nothing but the check of a result and the negative of the least numerator can stop it.
-/

namespace Dimensional.Exponent

/-! ## Sizes -/

/-- The numbers that a result stores. -/
def numbersOf (r : Except Fault Exponent) : Except Fault (ℤ × ℤ) :=
  r.map numbers

theorem numbersOf_store {n d : ℤ} (hpos : 0 < d) : numbersOf (store n d) =
    if (-2 ^ 31 ≤ n ∧ n < 2 ^ 31) ∧ d < 2 ^ 31 then .ok (n, d) else .error .outOfRange := by
  unfold numbersOf store
  split_ifs with hstore hfits hfits
  · rfl
  · exact absurd ⟨hstore.1, hstore.2.2⟩ hfits
  · exact absurd ⟨hfits.1, hpos, hfits.2⟩ hstore
  · rfl

theorem coe_gcd_pos (n : ℤ) {d : ℤ} (hd : 0 < d) : 0 < (Int.gcd n d : ℤ) := by
  exact_mod_cast Int.gcd_pos_iff.mpr (.inr (Int.ne_of_gt hd))

theorem abs_num_le (a : Exponent) : |a.num| ≤ 2 ^ 31 :=
  abs_le.mpr ⟨a.num_ge, a.num_lt.le⟩

theorem abs_den_lt (a : Exponent) : |a.den| < 2 ^ 31 :=
  abs_lt.mpr ⟨by have := a.den_pos; omega, a.den_lt⟩

theorem abs_num_lt_wide (a : Exponent) : |a.num| < 2 ^ 63 :=
  a.abs_num_le.trans_lt (by norm_num)

theorem abs_den_lt_wide (a : Exponent) : |a.den| < 2 ^ 63 :=
  a.abs_den_lt.trans (by norm_num)

theorem abs_num_mul_le (a : Exponent) (m : ℤ) : |a.num * m| ≤ 2 ^ 31 * |m| := by
  rw [abs_mul]
  exact mul_le_mul_of_nonneg_right a.abs_num_le (abs_nonneg m)

theorem abs_cross_lt (a b : Exponent) : |a.num * b.den| < 2 ^ 62 := by
  linarith [a.abs_num_mul_le b.den, b.abs_den_lt]

theorem abs_cross_lt_wide (a b : Exponent) : |a.num * b.den| < 2 ^ 63 :=
  (abs_cross_lt a b).trans (by norm_num)

theorem abs_cross_add_lt (a b : Exponent) : |a.num * b.den + b.num * a.den| < 2 ^ 63 :=
  (abs_add_le _ _).trans_lt (by linarith [abs_cross_lt a b, abs_cross_lt b a])

theorem abs_den_mul_lt (a b : Exponent) : |a.den * b.den| < 2 ^ 63 := by
  rw [abs_mul]
  nlinarith [abs_nonneg a.den, a.abs_den_lt, b.abs_den_lt]

theorem abs_num_mul_lt (a : Exponent) {k : ℤ} (hk : -2 ^ 31 ≤ k ∧ k < 2 ^ 31) : |a.num * k| < 2 ^ 63 := by
  have hk' : |k| ≤ 2 ^ 31 := abs_le.mpr ⟨hk.1, hk.2.le⟩
  linarith [a.abs_num_mul_le k]

theorem abs_den_double_lt (a : Exponent) : |a.den * 2| < 2 ^ 63 := by
  rw [abs_mul, abs_two]
  linarith [a.abs_den_lt]

namespace Machine

/-! ## Steps -/

/-- What stops a calculation. -/
inductive Trap where
  /-- The result of a step has more than so many bits. -/
  | overflow (bits : ℕ)
  /-- A step divides by zero. -/
  | zeroDivisor
  /-- A check refuses. -/
  | refused (f : Fault)
deriving DecidableEq

/-- The number has so many bits, one of them for the sign. -/
def HasBits (bits : ℕ) (n : ℤ) : Prop := -2 ^ (bits - 1) ≤ n ∧ n < 2 ^ (bits - 1)

instance (bits : ℕ) : DecidablePred (HasBits bits) := fun _ => inferInstanceAs (Decidable (_ ∧ _))

/-- The result of a step. -/
def hold (bits : ℕ) (n : ℤ) : Except Trap ℤ :=
  if HasBits bits n then .ok n else .error (.overflow bits)

/-- The quotient without its fraction. -/
def quotient (bits : ℕ) (n m : ℤ) : Except Trap ℤ :=
  if m = 0 then .error .zeroDivisor else hold bits (n.tdiv m)

/-- What the quotient leaves. It traps wherever the quotient does. -/
def remainder (bits : ℕ) (n m : ℤ) : Except Trap ℤ :=
  (quotient bits n m).map fun _ => n.tmod m

variable {bits : ℕ} {n d m : ℤ}

theorem hold_of_hasBits (h : HasBits bits n) : hold bits n = .ok n :=
  if_pos h

theorem hasBits_of_abs_lt (h : |n| < 2 ^ 63) : HasBits 64 n :=
  ⟨(abs_lt.mp h).1.le, (abs_lt.mp h).2⟩

theorem hold_of_abs_lt (h : |n| < 2 ^ 63) : hold 64 n = .ok n :=
  hold_of_hasBits (hasBits_of_abs_lt h)

theorem hasBits_tdiv (h : HasBits bits n) (hm : 0 < m) : HasBits bits (n.tdiv m) := by
  obtain ⟨hge, hlt⟩ := h
  have hsmall := Int.natAbs_tdiv_le_natAbs n m
  have hpow : (0 : ℤ) < 2 ^ (bits - 1) := by positivity
  obtain hn | hn := le_total 0 n
  · have := Int.tdiv_nonneg hn hm.le
    exact ⟨by omega, by omega⟩
  · have := Int.tdiv_nonneg (Int.neg_nonneg_of_nonpos hn) hm.le
    rw [Int.neg_tdiv] at this
    exact ⟨by omega, by omega⟩

theorem quotient_of_pos (h : HasBits bits n) (hm : 0 < m) : quotient bits n m = .ok (n.tdiv m) := by
  rw [quotient, if_neg (Int.ne_of_gt hm), hold_of_hasBits (hasBits_tdiv h hm)]

theorem remainder_of_pos (h : HasBits bits n) (hm : 0 < m) : remainder bits n m = .ok (n.tmod m) := by
  rw [remainder, quotient_of_pos h hm]
  rfl

theorem remainder_eq_ok {r : ℤ} (h : remainder bits n m = .ok r) : m ≠ 0 ∧ r = n.tmod m := by
  obtain ⟨q, hq, rfl⟩ := Outcome.map_eq_ok.mp h
  refine ⟨?_, rfl⟩
  rintro rfl
  contradiction

/-! ## Common divisors -/

/-- The last remainder that is not zero. The loop ends, as the remainders get smaller. -/
def lastRemainder (n m : ℤ) : Except Trap ℤ :=
  if m = 0 then .ok n
  else
    match _h : remainder 64 n m with
    | .error t => .error t
    | .ok r => lastRemainder m r
termination_by m.natAbs
decreasing_by
  obtain ⟨hm, rfl⟩ := remainder_eq_ok _h
  rw [Int.natAbs_tmod]
  exact Nat.mod_lt _ (Int.natAbs_pos.mpr hm)

/-- The number without its sign. -/
def magnitude (n : ℤ) : Except Trap ℤ :=
  if n < 0 then hold 64 (-n) else .ok n

/-- The greatest common divisor. -/
def divisor (n d : ℤ) : Except Trap ℤ := do
  lastRemainder (← magnitude n) (← magnitude d)

theorem magnitude_eq (h : |n| < 2 ^ 63) : magnitude n = .ok |n| := by
  unfold magnitude
  split_ifs with hneg
  · rw [← abs_of_neg hneg, hold_of_abs_lt (by rwa [abs_abs])]
  · rw [abs_of_nonneg (not_lt.mp hneg)]

theorem exists_remainder (hn : 0 ≤ n) (hlt : n < 2 ^ 63) (hm : 0 < m) :
    ∃ r, remainder 64 n m = .ok r ∧ 0 ≤ r ∧ r < m ∧ Int.gcd m r = Int.gcd n m := by
  have hbits : HasBits 64 n := hasBits_of_abs_lt (by rwa [abs_of_nonneg hn])
  refine ⟨_, remainder_of_pos hbits hm, Int.tmod_nonneg m hn, Int.tmod_lt_of_pos n hm, ?_⟩
  rw [Int.tmod_eq_emod_of_nonneg hn, Int.gcd_comm, Int.gcd_emod]

theorem lastRemainder_eq (hn : 0 ≤ n) (hnlt : n < 2 ^ 63) (hm : 0 ≤ m) (hmlt : m < 2 ^ 63) :
    lastRemainder n m = .ok (Int.gcd n m) := by
  -- turn by turn: both numbers stay in range and keep their common divisors
  fun_induction lastRemainder n m with
  | case1 n => rw [Int.gcd_zero, Int.natAbs_of_nonneg hn]
  | case2 n m hne t ht =>
    obtain ⟨r, hr, -⟩ := exists_remainder hn hnlt (by omega : 0 < m)
    rw [hr] at ht
    contradiction
  | case3 n m hne r hr ih =>
    obtain ⟨r', hr', hge, hlt, hgcd⟩ := exists_remainder hn hnlt (by omega : 0 < m)
    obtain rfl : r' = r := Except.ok.inj (hr'.symm.trans hr)
    rw [ih hm hmlt hge (by omega), hgcd]

theorem divisor_eq (hn : |n| < 2 ^ 63) (hd : |d| < 2 ^ 63) : divisor n d = .ok (Int.gcd n d) := by
  simp only [divisor, magnitude_eq hn, magnitude_eq hd]
  refine (lastRemainder_eq (abs_nonneg n) hn (abs_nonneg d) hd).trans ?_
  rw [Int.gcd, Int.natAbs_abs, Int.natAbs_abs, Int.gcd]

/-! ## Operations -/

/-- The numbers to store for `n / d`: the signs, the common divisor, and the check. -/
def lowest (n d : ℤ) : Except Trap (ℤ × ℤ) := do
  let g ← divisor n d
  let g := if g = 0 then 1 else g
  let (n, d) ← if d < 0 then do pure (← hold 64 (-n), ← hold 64 (-d)) else pure (n, d)
  let n ← quotient 64 n g
  let d ← quotient 64 d g
  if (-2 ^ 31 ≤ n ∧ n < 2 ^ 31) ∧ d < 2 ^ 31 then return (n, d) else throw (.refused .outOfRange)

/-- The sum, over the product of the denominators until it is brought to lowest terms. -/
def add (a b : ℤ × ℤ) : Except Trap (ℤ × ℤ) := do
  let left ← hold 64 (a.1 * b.2)
  let right ← hold 64 (b.1 * a.2)
  lowest (← hold 64 (left + right)) (← hold 64 (a.2 * b.2))

/-- The negative. This is the only step in 32 bits that may trap. -/
def neg (a : ℤ × ℤ) : Except Trap (ℤ × ℤ) := do
  return (← hold 32 (-a.1), a.2)

/-- The difference, as the sum with the negative. -/
def sub (a b : ℤ × ℤ) : Except Trap (ℤ × ℤ) := do
  add a (← neg b)

/-- The magnitude. Only a number less than zero is turned. -/
def abs (a : ℤ × ℤ) : Except Trap (ℤ × ℤ) :=
  if a.1 < 0 then neg a else .ok a

/-- The product with a number of 32 bits. -/
def scale (a : ℤ × ℤ) (k : ℤ) : Except Trap (ℤ × ℤ) := do
  lowest (← hold 64 (a.1 * k)) a.2

/-- The half. -/
def halve (a : ℤ × ℤ) : Except Trap (ℤ × ℤ) := do
  lowest a.1 (← hold 64 (a.2 * 2))

/-- The lowest terms. -/
def reduce (a : ℤ × ℤ) : Except Trap (ℤ × ℤ) :=
  lowest a.1 a.2

/-- Whether two pairs have one value, by cross-multiplication. -/
def equals (a b : ℤ × ℤ) : Except Trap Bool := do
  return (← hold 64 (a.1 * b.2)) == (← hold 64 (b.1 * a.2))

/-- Whether the fraction leaves no remainder. -/
def isInteger (a : ℤ × ℤ) : Except Trap Bool := do
  return (← remainder 32 a.1 a.2) == 0

/-- The trap that a fault is. -/
def Trap.ofFault : Fault → Trap
  | .negationOverflow => .overflow 32
  | f => .refused f

/-- The numbers of a result, or the trap that takes its place. -/
def outcome (r : Except Fault Exponent) : Except Trap (ℤ × ℤ) :=
  (numbersOf r).mapError .ofFault

/-! ## No step traps -/

variable (a b : Exponent)

theorem hasBits_num : HasBits 32 a.num :=
  ⟨a.num_ge, a.num_lt⟩

theorem quotient_of_dvd (h : |n| < 2 ^ 63) (hm : 0 < m) (hdvd : m ∣ n) :
    quotient 64 n m = .ok (n / m) := by
  rw [quotient_of_pos (hasBits_of_abs_lt h) hm, Int.tdiv_eq_ediv_of_dvd hdvd]

/-- The check of the result is the only step that may refuse. -/
theorem lowest_eq (hn : |n| < 2 ^ 63) (hpos : 0 < d) (hd : |d| < 2 ^ 63) :
    lowest n d = outcome (ofFraction n d) := by
  have hgcd := coe_gcd_pos n hpos
  have hlow : 0 < d / Int.gcd n d := Int.ediv_pos_of_pos_of_dvd hpos hgcd.le (Int.gcd_dvd_right ..)
  have hnum := quotient_of_dvd hn hgcd (Int.gcd_dvd_left n d)
  have hden := quotient_of_dvd hd hgcd (Int.gcd_dvd_right n d)
  rw [outcome, ofFraction, numbersOf_store hlow]
  -- neither is the divisor zero nor the denominator negative
  simp only [lowest, divisor_eq hn hd, bind, Except.bind, if_neg (Int.ne_of_gt hgcd),
    if_neg (not_lt.mpr hpos.le), pure, Except.pure, hnum, hden]
  split_ifs <;> rfl

theorem hold_cross : hold 64 (a.num * b.den) = .ok (a.num * b.den) :=
  hold_of_abs_lt (abs_cross_lt_wide a b)

theorem add_eq : add a.numbers b.numbers = outcome (a.add b) := by
  have hsum := abs_cross_add_lt a b
  have hden := abs_den_mul_lt a b
  rw [Exponent.add, ← lowest_eq hsum (mul_pos a.den_pos b.den_pos) hden]
  simp only [add, numbers, hold_cross a b, hold_cross b a, hold_of_abs_lt hsum,
    hold_of_abs_lt hden, bind, Except.bind]

theorem scale_eq {k : ℤ} (hk : HasBits 32 k) : scale a.numbers k = outcome (a.scale k) := by
  have hnum := a.abs_num_mul_lt hk
  rw [Exponent.scale, ← lowest_eq hnum a.den_pos a.abs_den_lt_wide]
  simp only [scale, numbers, hold_of_abs_lt hnum, bind, Except.bind]

theorem halve_eq : halve a.numbers = outcome a.halve := by
  have hden := a.abs_den_double_lt
  rw [Exponent.halve, ← lowest_eq a.abs_num_lt_wide (mul_pos a.den_pos two_pos) hden]
  simp only [halve, numbers, hold_of_abs_lt hden, bind, Except.bind]

theorem reduce_eq : reduce a.numbers = .ok a.reduce.numbers := by
  have h := lowest_eq a.abs_num_lt_wide a.den_pos a.abs_den_lt_wide
  rw [ofFraction_reduce] at h
  exact h

theorem equals_eq : equals a.numbers b.numbers = .ok (decide (a.Matches b)) := by
  simp only [equals, numbers, hold_cross a b, hold_cross b a, bind, Except.bind]
  rfl

theorem isInteger_eq : isInteger a.numbers = .ok (decide a.IsInteger) := by
  have hzero : a.num.tmod a.den = 0 ↔ a.num % a.den = 0 := by
    rw [← Int.dvd_iff_tmod_eq_zero, Int.dvd_iff_emod_eq_zero]
  simp only [isInteger, numbers, remainder_of_pos (hasBits_num a) a.den_pos, bind, Except.bind, beq_eq_decide]
  exact congrArg Except.ok (decide_eq_decide.mpr hzero)

/-! ## Signs -/

theorem hold_neg_num : hold 32 (-a.num) = if a.num = -2 ^ 31 then .error (.overflow 32) else .ok (-a.num) := by
  have hge := a.num_ge
  have hlt := a.num_lt
  have hbits : HasBits 32 (-a.num) ↔ ¬ a.num = -2 ^ 31 := by
    unfold HasBits
    omega
  rw [hold, ite_cond_congr (propext hbits), ite_not]

theorem neg_eq : neg a.numbers = outcome a.neg := by
  unfold Exponent.neg
  simp only [neg, numbers, hold_neg_num]
  split_ifs <;> rfl

theorem abs_eq : abs a.numbers = outcome a.abs := by
  change (if a.num < 0 then neg a.numbers else .ok a.numbers) = outcome (if a.num < 0 then a.neg else .ok a)
  split_ifs
  · exact neg_eq a
  · rfl

theorem sub_eq : sub a.numbers b.numbers = outcome (a.sub b) := by
  rw [sub, neg_eq, Exponent.sub]
  cases b.neg with
  | ok c => exact add_eq a c
  | error f => rfl

end Machine

end Dimensional.Exponent
