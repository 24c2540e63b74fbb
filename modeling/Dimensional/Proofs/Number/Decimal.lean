import Dimensional.Proofs.Number.Rounding

/-!
# The shortest decimal lies around its double

The interval is searched on grids of powers of ten. Whatever grid is found first, its multiple is in the
interval, and taking zeros off changes no value. So the shortest decimal of a double is rounded to it.
-/

namespace Dimensional.Number.Decimal

/-- The number that a decimal writes. -/
def value (x : Decimal) : ℚ :=
  x.coefficient * 10 ^ x.exponent

/-! ## Zeros at the end -/

theorem value_stripUpTo (fuel c : Nat) (e : Int) : (stripUpTo fuel c e).value = c * 10 ^ e := by
  induction fuel generalizing c e with
  | zero => rfl
  | succ fuel ih =>
    rw [stripUpTo]
    split
    · rename_i h
      have hc : (c : ℚ) = (c / 10 : Nat) * 10 := by exact_mod_cast (by omega : c = c / 10 * 10)
      rw [ih, hc, zpow_add₀ (by norm_num), zpow_one]
      ring
    · rfl

@[simp]
theorem value_strip (x : Decimal) : x.strip.value = x.value := by
  unfold strip
  split
  · rename_i h
    simp [value, h]
  · exact value_stripUpTo _ _ _

/-! ## The search -/

variable {i : Interval}

theorem Interval.contains_iff {x : Nat} : i.contains x ↔ i.Holds x := by
  unfold contains Holds
  cases i.closed <;> simp

theorem Interval.holds_of_onGrid? {g c : Nat} (hi : i.Holds i.value) (h : i.onGrid? g = some c) :
    i.Holds (c * 10 ^ g : Nat) := by
  unfold onGrid? at h
  dsimp only at h
  split_ifs at h with hmod hboth hnear hlower hupper <;> cases h
  · rwa [Nat.div_mul_cancel (Nat.dvd_of_mod_eq_zero hmod)]
  · exact contains_iff.mp (Bool.and_eq_true_iff.mp hboth).1
  · exact contains_iff.mp (Bool.and_eq_true_iff.mp hboth).2
  · exact contains_iff.mp hlower
  · exact contains_iff.mp hupper

theorem Interval.holds_coarsest (hi : i.Holds i.value) (g : Nat) :
    i.Holds ((i.coarsest g).1 * 10 ^ (i.coarsest g).2 : Nat) := by
  induction g with
  | zero => simpa [coarsest] using hi
  | succ g ih =>
    rw [coarsest]
    split
    · rename_i h
      exact holds_of_onGrid? hi h
    · exact ih

theorem Interval.holds_times {u : Nat} (hu : 0 < u) {t : ℚ} : (i.times u).Holds t ↔ i.Holds (t / u) := by
  have hu' : (0 : ℚ) < u := by exact_mod_cast hu
  unfold times Holds
  dsimp only
  push_cast
  rw [le_div_iff₀ hu', lt_div_iff₀ hu', div_le_iff₀ hu', div_lt_iff₀ hu']

theorem holds_value {m : Nat} (hm : 0 < m) (e : Int) : (interval m e).Holds (interval m e).value := by
  rw [← Interval.contains_iff]
  unfold interval Interval.contains
  dsimp only
  split <;> split <;> simp <;> omega

/-- The unit that makes the bounds around a double whole. -/
def unit (e : Int) : Nat :=
  if 0 ≤ e then 2 ^ e.toNat else 5 ^ (-e).toNat

theorem unit_pos (e : Int) : 0 < unit e := by
  unfold unit
  split <;> positivity

theorem unit_mul (e : Int) : (unit e : ℚ) * 10 ^ min e 0 = 2 ^ e := by
  unfold unit
  split
  · rename_i h
    rw [min_eq_right h, Binary.zpow_of_nonneg 2 h, zpow_zero, mul_one]
    push_cast
    rfl
  · rename_i h
    rw [min_eq_left (by omega), Binary.zpow_of_neg 10 h, Binary.zpow_of_neg 2 h,
      show (10 : ℚ) = 5 * 2 by norm_num, mul_pow]
    push_cast
    field_simp

theorem shortest_eq {m : Nat} (hm : 0 < m) (e : Int) :
    let i := (interval m e).times (unit (e - 2))
    let found := i.coarsest (Nat.toDigits 10 i.value).length
    shortest m e = strip ⟨found.1, found.2 + min (e - 2) 0⟩ := by
  rw [shortest, if_neg hm.ne']
  dsimp only
  rw [sub_add_cancel]
  rfl

theorem holds_shortest {m : Nat} (hm : 0 < m) (e : Int) :
    (interval m e).Holds ((shortest m e).value / 2 ^ (e - 2)) := by
  have hu := unit_pos (e - 2)
  have hu' : (unit (e - 2) : ℚ) ≠ 0 := by exact_mod_cast hu.ne'
  have hvalue : ((interval m e).times (unit (e - 2))).Holds
      ((interval m e).times (unit (e - 2))).value := by
    rw [Interval.holds_times hu, Interval.times]
    push_cast
    rw [mul_div_cancel_right₀ _ hu']
    exact holds_value hm e
  -- the multiple that was found, in the unit of the interval, is the decimal in units of the double
  rw [shortest_eq hm e, value_strip, value]
  have h := Interval.holds_coarsest hvalue
    (Nat.toDigits 10 ((interval m e).times (unit (e - 2))).value).length
  rw [Interval.holds_times hu] at h
  push_cast at h
  rwa [← unit_mul, zpow_add₀ (by norm_num), zpow_natCast, ← mul_assoc,
    mul_div_mul_right _ _ (zpow_ne_zero _ (by norm_num))]

end Dimensional.Number.Decimal
