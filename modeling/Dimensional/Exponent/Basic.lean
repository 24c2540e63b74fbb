import Dimensional.Exponent.Fault
import Dimensional.Number.Power

/-!
# Exponents

An exponent is a fraction of two stored numbers. It keeps the form in which it was written, so `4/2`
and `2/1` are two exponents of one value. Arithmetic is exact, its results are in lowest terms, and a
result that does not fit the stored numbers is refused.
-/

namespace Dimensional

open scoped Powers

/-- A rational exponent as stored. -/
structure Exponent where
  /-- Stored numerator. -/
  num : Int
  /-- Stored denominator. -/
  den : Int
  num_ge : -2 ^ (31 : Nat) ≤ num
  num_lt : num < 2 ^ (31 : Nat)
  den_pos : 0 < den := by decide
  den_lt : den < 2 ^ (31 : Nat) := by decide
deriving DecidableEq

namespace Exponent

/-- The whole exponent `n / 1`, for an `n` that is known to fit. -/
def whole (n : Int) (h : -2 ^ (31 : Nat) ≤ n ∧ n < 2 ^ (31 : Nat) := by decide) : Exponent where
  num := n
  den := 1
  num_ge := h.1
  num_lt := h.2

/-- The exponent zero, `0/1`. -/
def zero : Exponent := whole 0

/-- The exponent one, `1/1`. -/
def one : Exponent := whole 1

instance : Inhabited Exponent := ⟨zero⟩

/-- The two numbers as stored. -/
def numbers (a : Exponent) : Int × Int := (a.num, a.den)

/-! ## Building exponents -/

/-- The exponent that stores exactly `n` over `d`, if both can be stored. -/
def store (n d : Int) : Except Fault Exponent :=
  if h : (-2 ^ (31 : Nat) ≤ n ∧ n < 2 ^ (31 : Nat)) ∧ 0 < d ∧ d < 2 ^ (31 : Nat) then
    .ok ⟨n, d, h.1.1, h.1.2, h.2.1, h.2.2⟩
  else
    .error .outOfRange

/-- The negative of a stored number. The least one has none. -/
def negate (n : Int) : Except Fault Int :=
  if n = -2 ^ (31 : Nat) then .error .negationOverflow else .ok (-n)

theorem negate_eq_ok {n m : Int} : negate n = .ok m ↔ n ≠ -2 ^ (31 : Nat) ∧ m = -n := by
  unfold negate
  split
  next h => simp [h]
  next h => rw [Except.ok.injEq, and_iff_right h, eq_comm]

theorem negate_eq_error {n : Int} {f : Fault} :
    negate n = .error f ↔ f = .negationOverflow ∧ n = -2 ^ (31 : Nat) := by
  unfold negate
  split
  next h => rw [and_iff_left h, Except.error.injEq, eq_comm]
  next h => simp only [h, and_false, reduceCtorEq]

/-- The exponent written `n / d`. A negative denominator gives its sign to the numerator; the
fraction is not reduced. -/
def ofPair (n d : Int) : Except Fault Exponent :=
  if d = 0 then .error .zeroDenominator
  else if d < 0 then do
    let n ← negate n
    let d ← negate d
    store n d
  else store n d

/-- The whole exponent `n / 1`. -/
def ofInt (n : Int) : Except Fault Exponent :=
  store n 1

/-- The fraction `n / d` in lowest terms, for a positive `d`. -/
def ofFraction (n d : Int) : Except Fault Exponent :=
  store (n / Int.gcd n d) (d / Int.gcd n d)

/-! ## Lowest terms -/

theorem gcd_pos (a : Exponent) : 0 < Int.gcd a.num a.den := by
  rw [Int.gcd_pos_iff]
  exact .inr (Int.ne_of_gt a.den_pos)

/-- The lowest-terms form. Cancelling only makes the stored numbers smaller, so it always fits. -/
def reduce (a : Exponent) : Exponent where
  num := a.num / Int.gcd a.num a.den
  den := a.den / Int.gcd a.num a.den
  num_ge := by
    have h := a.gcd_pos
    have := a.num_ge
    rw [Int.le_ediv_iff_mul_le (by omega)]
    have : (1 : Int) ≤ (Int.gcd a.num a.den : Int) := by omega
    omega
  num_lt := by
    have h := a.gcd_pos
    have := a.num_lt
    rw [Int.ediv_lt_iff_lt_mul (by omega)]
    have : (1 : Int) ≤ (Int.gcd a.num a.den : Int) := by omega
    omega
  den_pos := by
    have h := a.gcd_pos
    exact Int.ediv_pos_of_pos_of_dvd a.den_pos (by omega) (Int.gcd_dvd_right ..)
  den_lt := by
    have h := a.gcd_pos
    have := a.den_lt
    rw [Int.ediv_lt_iff_lt_mul (by omega)]
    have : (1 : Int) ≤ (Int.gcd a.num a.den : Int) := by omega
    omega

/-! ## Arithmetic -/

/-- The exact sum. -/
def add (a b : Exponent) : Except Fault Exponent :=
  ofFraction (a.num * b.den + b.num * a.den) (a.den * b.den)

/-- The negative, over the same denominator. -/
def neg (a : Exponent) : Except Fault Exponent :=
  if h : a.num = -2 ^ (31 : Nat) then .error .negationOverflow
  else .ok ⟨-a.num, a.den, by have := a.num_lt; omega, by have := a.num_ge; omega, a.den_pos, a.den_lt⟩

/-- The exact difference, as the sum with the negative. -/
def sub (a b : Exponent) : Except Fault Exponent := do
  a.add (← b.neg)

/-- The exact product with a whole number. -/
def scale (a : Exponent) (k : Int) : Except Fault Exponent :=
  ofFraction (a.num * k) a.den

/-- The exact half. -/
def halve (a : Exponent) : Except Fault Exponent :=
  ofFraction a.num (a.den * 2)

/-- The magnitude, over the same denominator. -/
def abs (a : Exponent) : Except Fault Exponent :=
  if a.num < 0 then a.neg else .ok a

/-! ## Comparing and classifying -/

/-- Two exponents have one value, whatever form they are stored in. -/
def Matches (a b : Exponent) : Prop :=
  a.num * b.den = b.num * a.den

instance (a b : Exponent) : Decidable (a.Matches b) :=
  inferInstanceAs (Decidable (_ = _))

/-- The exponent is zero. -/
def IsZero (a : Exponent) : Prop := a.num = 0

/-- The exponent is a whole number. -/
def IsInteger (a : Exponent) : Prop := a.num % a.den = 0

/-- The exponent is greater than zero. -/
def IsPositive (a : Exponent) : Prop := 0 < a.num

/-- The exponent is less than zero. -/
def IsNegative (a : Exponent) : Prop := a.num < 0

/-- The exponent is one. -/
def IsOne (a : Exponent) : Prop := a.num = a.den

instance (a : Exponent) : Decidable a.IsZero := inferInstanceAs (Decidable (_ = _))

instance (a : Exponent) : Decidable a.IsInteger := inferInstanceAs (Decidable (_ = _))

instance (a : Exponent) : Decidable a.IsPositive := inferInstanceAs (Decidable (_ < _))

instance (a : Exponent) : Decidable a.IsNegative := inferInstanceAs (Decidable (_ < _))

instance (a : Exponent) : Decidable a.IsOne := inferInstanceAs (Decidable (_ = _))

/-- The numbers that identify the value of an exponent, for hashing. -/
def key (a : Exponent) : List Int :=
  [a.reduce.num, a.reduce.den]

/-! ## Text -/

/-- The stored form, `n/d`. -/
def stored (a : Exponent) : String :=
  toString a.num ++ "/" ++ toString a.den

/-- The value in lowest terms, `n` for a whole number and `n/d` otherwise. -/
def text (a : Exponent) : String :=
  let r := a.reduce
  if r.den = 1 then toString r.num else r.stored

end Exponent

end Dimensional
