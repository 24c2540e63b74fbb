import Dimensional.Proofs.Number.Decimal
import Dimensional.Proofs.Number.Grammar
import Dimensional.Proofs.Number.Text

/-!
# Numbers are read as they were printed

The digits of a number in full are read as the same decimal, and the shortest decimal of a double is
rounded to it. Zeros keep their sign, and the names of the other doubles stand for one each.
-/

namespace Dimensional.Number

open Text

namespace Decimal

/-! ## The size of a decimal -/

/-- The place of the first digit. -/
def top (x : Decimal) : Int :=
  x.exponent + x.digits.length

theorem value_eq_zero {x : Decimal} : x.value = 0 ↔ x.coefficient = 0 := by
  unfold value
  rw [mul_eq_zero, or_iff_left (zpow_ne_zero _ (by norm_num)), Nat.cast_eq_zero]

theorem value_lt (x : Decimal) : x.value < 10 ^ x.top := by
  have h : x.coefficient < 10 ^ x.digits.length :=
    (Nat.length_toDigits_le_iff (by decide) Nat.length_toDigits_pos).mp le_rfl
  have h' : (x.coefficient : ℚ) < 10 ^ x.digits.length := by exact_mod_cast h
  unfold value top
  rw [zpow_add₀ (by norm_num), zpow_natCast, mul_comm (10 ^ x.exponent)]
  exact mul_lt_mul_of_pos_right h' (zpow_pos (by norm_num) _)

theorem le_value {x : Decimal} (hx : x.coefficient ≠ 0) : 10 ^ (x.top - 1) ≤ x.value := by
  have hlen : 0 < x.digits.length := Nat.length_toDigits_pos
  have h : 10 ^ (x.digits.length - 1) ≤ x.coefficient := by
    by_contra hlt
    rw [not_le] at hlt
    rcases Nat.eq_zero_or_pos (x.digits.length - 1) with h1 | h1
    · rw [h1] at hlt
      omega
    · have := (Nat.length_toDigits_le_iff (by decide) h1).mpr hlt
      unfold digits at *
      omega
  have h' : (10 : ℚ) ^ (x.digits.length - 1) ≤ x.coefficient := by exact_mod_cast h
  unfold value top
  rw [show x.exponent + x.digits.length - 1 = ((x.digits.length - 1 : Nat) : Int) + x.exponent by omega,
    zpow_add₀ (by norm_num), zpow_natCast]
  exact mul_le_mul_of_nonneg_right h' (zpow_pos (by norm_num) _).le

/-! ## The nearest double -/

theorem toFloat_of_eq_zero {negative : Bool} {x : Decimal} (h : x.coefficient = 0) :
    x.toFloat negative = Binary.nearest negative 0 1 := by
  unfold toFloat
  dsimp only
  rw [if_pos (.inl h)]
  rfl

theorem exists_toFloat_eq_nearest (negative : Bool) {x : Decimal} (hx : x.coefficient ≠ 0)
    (hlow : -400 ≤ x.top) (hhigh : x.top ≤ 400) :
    ∃ n d : Nat, 0 < n ∧ 0 < d ∧ (n / d : ℚ) = x.value ∧
      x.toFloat negative = Binary.nearest negative n d := by
  have hpos := Nat.pos_of_ne_zero hx
  unfold top at hlow hhigh
  unfold toFloat value
  dsimp only
  rw [if_neg (by omega), if_neg (by omega)]
  split
  · rename_i h
    refine ⟨_, 1, Nat.mul_pos hpos (Nat.pow_pos (by decide)), one_pos, ?_, rfl⟩
    rw [Binary.zpow_of_nonneg 10 h]
    push_cast
    rw [div_one]
  · rename_i h
    refine ⟨_, _, hpos, Nat.pow_pos (by decide), ?_, rfl⟩
    rw [Binary.zpow_of_neg 10 h]
    push_cast
    rw [div_eq_mul_inv]

theorem two_pow_le_ten_pow {k n : Nat} (h : k ≤ 3 * n) : (2 : ℚ) ^ k ≤ 10 ^ n := by
  calc (2 : ℚ) ^ k ≤ 2 ^ (3 * n) := pow_le_pow_right₀ one_le_two h
    _ = (2 ^ 3) ^ n := pow_mul _ _ _
    _ ≤ 10 ^ n := pow_le_pow_left₀ (by norm_num) (by norm_num) n

theorem top_bounds_of_holds {m : Nat} {e : Int} (hs : Stored m e) (hm : 0 < m) {x : Decimal}
    (h : (interval m e).Holds (x.value / 2 ^ (e - 2))) :
    x.coefficient ≠ 0 ∧ -400 ≤ x.top ∧ x.top ≤ 400 := by
  obtain ⟨hsmall, hlarge⟩ := magnitude_bounds hs hm h
  have hne : x.coefficient ≠ 0 := by
    rw [ne_eq, ← value_eq_zero]
    have := Binary.two_zpow_pos (-1075)
    linarith
  refine ⟨hne, ?_, ?_⟩
  · have h10 : (10 : ℚ) ^ (-400 : Int) < 10 ^ x.top := by
      refine lt_of_le_of_lt ?_ (hsmall.trans_lt x.value_lt)
      rw [zpow_neg, zpow_neg, zpow_ofNat, zpow_ofNat]
      exact inv_anti₀ (pow_pos two_pos _) (two_pow_le_ten_pow (by decide))
    exact ((zpow_lt_zpow_iff_right₀ (by norm_num)).mp h10).le
  · have h10 : (10 : ℚ) ^ (x.top - 1) < 10 ^ (400 : Int) := by
      refine (le_value hne).trans_lt (hlarge.trans_le ?_)
      rw [zpow_ofNat, zpow_ofNat]
      exact two_pow_le_ten_pow (by decide)
    have := (zpow_lt_zpow_iff_right₀ (by norm_num)).mp h10
    omega

theorem toFloat_of_holds {y : Float} {negative : Bool} {m : Nat} {e : Int}
    (hy : Binary.ofFloat y = .finite negative m e) (hm : 0 < m) {x : Decimal}
    (h : (interval m e).Holds (x.value / 2 ^ (e - 2))) : x.toFloat negative = y := by
  have hs := stored_of_finite hy
  obtain ⟨hne, hlow, hhigh⟩ := top_bounds_of_holds hs hm h
  obtain ⟨n, d, hn, hd, hvalue, hfloat⟩ := exists_toFloat_eq_nearest negative hne hlow hhigh
  rw [hfloat]
  refine nearest_of_finite hy (nearestBits_of_holds hs hn hd ?_ h)
  rw [hvalue, div_mul_cancel₀ _ (Binary.two_zpow_pos _).ne']

end Decimal

/-! ## Digits -/

theorem writesDecimal_positional (x : Decimal) :
    ∃ y, WritesDecimal (positional x) y ∧ y.value = x.value := by
  rcases positional_cases x with ⟨h, hx⟩ | ⟨ds, fs, heq, hx⟩
  · have hwrites := WritesDecimal.whole hx.ne_nil hx.isDigit .zero
    rw [List.append_nil] at hwrites
    refine ⟨_, hwrites, ?_⟩
    rw [hx.value, Decimal.value, Decimal.value, Binary.zpow_of_nonneg 10 h, zpow_zero, mul_one]
    push_cast
    rfl
  · have hwrites := WritesDecimal.point (by simp [hx.ne_nil]) hx.isDigit .zero
    rw [List.append_nil, ← heq] at hwrites
    refine ⟨_, hwrites, ?_⟩
    rw [hx.value, Decimal.value, Decimal.value, hx.places, zero_sub]

theorem writesSign_sign (negative : Bool) : WritesSign (sign false negative) negative := by
  cases negative with
  | false => exact .none
  | true => exact .minus

/-! ## Every number -/

theorem exists_writesDecimal_plain {x : Float} {negative : Bool} {m : Nat} {e : Int}
    (hx : Binary.ofFloat x = .finite negative m e) :
    ∃ y, WritesDecimal (plain none m e) y ∧ y.toFloat negative = x := by
  obtain ⟨y, hwrites, hvalue⟩ := writesDecimal_positional (.shortest m e)
  refine ⟨y, hwrites, ?_⟩
  -- zero has no interval around it, but it keeps its sign
  rcases Nat.eq_zero_or_pos m with rfl | hm
  · have hs := stored_of_finite hx
    have he : e = -1074 := by
      have := hs.normal
      omega
    have hzero : y.coefficient = 0 := by
      rw [← Decimal.value_eq_zero, hvalue, Decimal.value_eq_zero]
      rfl
    rw [Decimal.toFloat_of_eq_zero hzero]
    apply nearest_of_finite hx
    rw [he]
    rfl
  · apply Decimal.toFloat_of_holds hx hm
    rw [hvalue]
    exact Decimal.holds_shortest hm e

/-- The plain text of a number is read as the number. -/
theorem read?_text (x : Float) : read? (text {} x).toList = some x := by
  rw [toList_text]
  cases hx : Binary.ofFloat x with
  | nan =>
    rw [← toFloat_of_nan hx]
    decide +kernel
  | infinite negative =>
    rw [← toFloat_of_infinite hx]
    cases negative <;> decide +kernel
  | finite negative m e =>
    obtain ⟨y, hwrites, hy⟩ := exists_writesDecimal_plain hx
    rw [layOutNumber, layOut_default, read?_eq_some, ← hy]
    exact .decimal (writesSign_sign negative) hwrites

end Dimensional.Number
