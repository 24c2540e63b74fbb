import Mathlib.Algebra.Order.Field.Power
import Mathlib.Algebra.Order.Field.Rat
import Mathlib.Data.Rat.Lemmas
import Mathlib.Tactic.FieldSimp
import Mathlib.Tactic.Linarith
import Mathlib.Tactic.NormNum
import Mathlib.Tactic.Positivity
import Mathlib.Tactic.Ring
import Dimensional.Number.Decimal
import Dimensional.Proofs.Number.Bits

/-!
# Rounding to the nearest double

A fraction is scaled by the power of two that leaves 53 bits before the point, and rounded to a whole
number there. Every fraction in the interval around a double is rounded to that double.
-/

namespace Dimensional.Number

namespace Binary

/-! ## The nearest whole number -/

/-- The whole number `r` is nearest to `y`, and halfway between two it is the even one. -/
structure IsNearest (y : ℚ) (r : Nat) : Prop where
  low : (r : ℚ) - 1 / 2 ≤ y
  high : y ≤ r + 1 / 2
  even_of_tie : y = r - 1 / 2 ∨ y = r + 1 / 2 → r % 2 = 0

theorem IsNearest.not_lt {y : ℚ} {r s : Nat} (hr : IsNearest y r) (hs : IsNearest y s) : ¬ r < s := by
  intro hlt
  have hle : (r : ℚ) + 1 ≤ s := by exact_mod_cast hlt
  have hlow := hs.low
  have hhigh := hr.high
  have hsucc : s = r + 1 := by
    have : (s : ℚ) = r + 1 := by linarith
    exact_mod_cast this
  have hreven := hr.even_of_tie (.inr (by linarith))
  have hseven := hs.even_of_tie (.inl (by linarith))
  omega

theorem IsNearest.unique {y : ℚ} {r s : Nat} (hr : IsNearest y r) (hs : IsNearest y s) : r = s :=
  Nat.le_antisymm (Nat.not_lt.mp (hs.not_lt hr)) (Nat.not_lt.mp (hr.not_lt hs))

theorem isNearest_div {n d r : Nat} (hd : 0 < d) (hlow : 2 * (d * r) ≤ 2 * n + d)
    (hhigh : 2 * n ≤ 2 * (d * r) + d)
    (htie : 2 * (d * r) = 2 * n + d ∨ 2 * n = 2 * (d * r) + d → r % 2 = 0) : IsNearest (n / d) r := by
  have hd' : (0 : ℚ) < d := by exact_mod_cast hd
  have hlow' : (2 * (d * r) : ℚ) ≤ 2 * n + d := by exact_mod_cast hlow
  have hhigh' : (2 * n : ℚ) ≤ 2 * (d * r) + d := by exact_mod_cast hhigh
  refine ⟨?_, ?_, ?_⟩
  · rw [le_div_iff₀ hd']
    linarith
  · rw [div_le_iff₀ hd']
    linarith
  · rintro (h | h) <;> rw [div_eq_iff hd'.ne'] at h
    · have : (2 * (d * r) : ℚ) = 2 * n + d := by linarith
      exact htie (.inl (by exact_mod_cast this))
    · have : (2 * n : ℚ) = 2 * (d * r) + d := by linarith
      exact htie (.inr (by exact_mod_cast this))

theorem isNearest_roundDiv (n : Nat) {d : Nat} (hd : 0 < d) : IsNearest (n / d) (roundDiv n d) := by
  have hn := Nat.div_add_mod n d
  have hmod := Nat.mod_lt n hd
  have hsucc : d * (n / d + 1) = d * (n / d) + d := Nat.mul_succ d (n / d)
  unfold roundDiv
  dsimp only
  split
  · exact isNearest_div hd (by omega) (by omega) (by omega)
  · split
    · exact isNearest_div hd (by omega) (by omega) (by omega)
    · -- halfway, so the even neighbour is as near as the other
      split
      · exact isNearest_div hd (by omega) (by omega) (by omega)
      · exact isNearest_div hd (by omega) (by omega) (by omega)

/-! ## The exponent -/

theorem unscale_den_pos (n : Nat) {d : Nat} (hd : 0 < d) (e : Int) : 0 < (unscale n d e).2 := by
  unfold unscale
  split
  · exact Nat.mul_pos hd (Nat.two_pow_pos _)
  · exact hd

theorem zpow_of_nonneg (q : ℚ) {e : Int} (h : 0 ≤ e) : q ^ e = q ^ e.toNat := by
  rw [← zpow_natCast, Int.toNat_of_nonneg h]

theorem zpow_of_neg (q : ℚ) {e : Int} (h : ¬ 0 ≤ e) : q ^ e = (q ^ (-e).toNat)⁻¹ := by
  rw [← zpow_natCast, ← zpow_neg, Int.toNat_of_nonneg (by omega), neg_neg]

theorem unscale_eq (n d : Nat) (e : Int) :
    ((unscale n d e).1 : ℚ) / (unscale n d e).2 = n / d / 2 ^ e := by
  unfold unscale
  split
  · rename_i h
    rw [zpow_of_nonneg 2 h]
    push_cast
    rw [div_div]
  · rename_i h
    rw [zpow_of_neg 2 h, div_inv_eq_mul]
    push_cast
    ring

theorem two_zpow_pos (e : Int) : (0 : ℚ) < 2 ^ e := zpow_pos two_pos e

theorem two_zpow_le {e f : Int} (h : e ≤ f) : (2 : ℚ) ^ e ≤ 2 ^ f := zpow_le_zpow_right₀ one_le_two h

theorem fraction_bounds {n d : Nat} (hn : 0 < n) (hd : 0 < d) :
    (2 : ℚ) ^ ((n.log2 : Int) - d.log2 - 1) ≤ n / d ∧
      (n / d : ℚ) < 2 ^ ((n.log2 : Int) - d.log2 + 1) := by
  have hd' : (0 : ℚ) < d := by exact_mod_cast hd
  have hnlow : ((2 ^ n.log2 : Nat) : ℚ) ≤ n := by exact_mod_cast Nat.log2_self_le hn.ne'
  have hnhigh : (n : ℚ) < (2 ^ (n.log2 + 1) : Nat) := by exact_mod_cast Nat.lt_log2_self
  have hdlow : ((2 ^ d.log2 : Nat) : ℚ) ≤ d := by exact_mod_cast Nat.log2_self_le hd.ne'
  have hdhigh : (d : ℚ) < (2 ^ (d.log2 + 1) : Nat) := by exact_mod_cast Nat.lt_log2_self
  push_cast at hnlow hnhigh hdlow hdhigh
  constructor
  · rw [le_div_iff₀ hd']
    calc (2 : ℚ) ^ ((n.log2 : Int) - d.log2 - 1) * d
        ≤ 2 ^ ((n.log2 : Int) - d.log2 - 1) * 2 ^ (d.log2 + 1) :=
          mul_le_mul_of_nonneg_left hdhigh.le (two_zpow_pos _).le
      _ = 2 ^ n.log2 := by
          rw [← zpow_natCast, ← zpow_natCast, ← zpow_add₀ two_ne_zero]
          congr 1
          push_cast
          ring
      _ ≤ n := hnlow
  · rw [div_lt_iff₀ hd']
    calc (n : ℚ) < 2 ^ (n.log2 + 1) := hnhigh
      _ = 2 ^ ((n.log2 : Int) - d.log2 + 1) * 2 ^ d.log2 := by
          rw [← zpow_natCast, ← zpow_natCast, ← zpow_add₀ two_ne_zero]
          congr 1
          push_cast
          ring
      _ ≤ 2 ^ ((n.log2 : Int) - d.log2 + 1) * d :=
          mul_le_mul_of_nonneg_left hdlow (two_zpow_pos _).le

theorem exponentNear_bounds {n d : Nat} (hn : 0 < n) (hd : 0 < d) :
    -1074 ≤ exponentNear n d ∧ (n / d : ℚ) < 2 ^ (exponentNear n d + 53) ∧
      ((2 : ℚ) ^ (exponentNear n d + 52) ≤ n / d ∨ exponentNear n d = -1074) := by
  obtain ⟨hlow, hhigh⟩ := fraction_bounds hn hd
  unfold exponentNear
  dsimp only
  generalize he : (n.log2 : Int) - d.log2 - 53 = e
  have hlow' : (2 : ℚ) ^ (e + 52) ≤ n / d := by
    rwa [← he, show (n.log2 : Int) - d.log2 - 53 + 52 = n.log2 - d.log2 - 1 by ring]
  have hhigh' : (n / d : ℚ) < 2 ^ (e + 54) := by
    rwa [← he, show (n.log2 : Int) - d.log2 - 53 + 54 = n.log2 - d.log2 + 1 by ring]
  have hpos := unscale_den_pos n hd e
  have hpos' : (0 : ℚ) < (unscale n d e).2 := by exact_mod_cast hpos
  have hcut : (unscale n d e).1 < (unscale n d e).2 * 2 ^ 53 ↔ (n / d : ℚ) < 2 ^ (e + 53) := by
    rw [← Nat.cast_lt (α := ℚ), zpow_add₀ two_ne_zero, ← div_lt_iff₀' (two_zpow_pos e), ← unscale_eq,
      div_lt_iff₀' hpos']
    norm_num
  -- the exponent before it is kept from falling below the least one
  obtain ⟨f, hf, hflow, hfhigh⟩ : ∃ f : Int,
      (if (unscale n d e).1 < (unscale n d e).2 * 2 ^ 53 then e else e + 1) = f ∧
        (2 : ℚ) ^ (f + 52) ≤ n / d ∧ (n / d : ℚ) < 2 ^ (f + 53) := by
    split
    · rename_i h
      exact ⟨e, rfl, hlow', hcut.mp h⟩
    · rename_i h
      refine ⟨e + 1, rfl, ?_, ?_⟩
      · rw [hcut, not_lt] at h
        rwa [show e + 1 + 52 = e + 53 by ring]
      · rwa [show e + 1 + 53 = e + 54 by ring]
  rw [hf]
  refine ⟨le_max_left _ _, hfhigh.trans_le (two_zpow_le (by omega)), ?_⟩
  rcases le_total f (-1074) with h | h
  · exact .inr (max_eq_left h)
  · exact .inl (by rwa [max_eq_right h])

theorem nearestBits_eq {n d : Nat} (hn : 0 < n) (hd : 0 < d) {e : Int} (he : exponentNear n d = e)
    {r : Nat} (hr : IsNearest (n / d / 2 ^ e) r) :
    nearestBits n d = min ((e + 1074).toNat * 2 ^ 52 + r) (2047 * 2 ^ 52) := by
  have hround := isNearest_roundDiv (unscale n d e).1 (unscale_den_pos n hd e)
  rw [unscale_eq] at hround
  rw [nearestBits, if_neg hn.ne', he]
  dsimp only
  rw [hround.unique hr]

end Binary

/-! ## The interval around a double -/

namespace Decimal

/-- The fraction lies in the interval. -/
def Interval.Holds (i : Interval) (t : ℚ) : Prop :=
  if i.closed then i.low ≤ t ∧ t ≤ i.high else i.low < t ∧ t < i.high

variable {i : Interval} {t : ℚ}

theorem Interval.Holds.bounds (h : i.Holds t) : i.low ≤ t ∧ t ≤ i.high := by
  unfold Holds at h
  split at h
  · exact h
  · exact ⟨h.1.le, h.2.le⟩

theorem Interval.Holds.closed_of_bound (h : i.Holds t) (ht : t ≤ i.low ∨ i.high ≤ t) : i.closed := by
  unfold Holds at h
  split at h
  · assumption
  · rcases ht with ht | ht
    · exact absurd h.1 (not_lt.mpr ht)
    · exact absurd h.2 (not_lt.mpr ht)

theorem low_ge (m : Nat) (e : Int) : (4 * m - 2 : ℚ) ≤ (interval m e).low := by
  have h : 4 * m ≤ (interval m e).low + 2 := by
    unfold interval
    dsimp only
    split <;> omega
  have : (4 * m : ℚ) ≤ (interval m e).low + 2 := by exact_mod_cast h
  linarith

theorem low_of_power {e : Int} (he : -1074 < e) : ((interval (2 ^ 52) e).low : ℚ) = 2 ^ 54 - 1 := by
  have h : (interval (2 ^ 52) e).low + 1 = 2 ^ 54 := by
    unfold interval
    dsimp only
    rw [if_pos ⟨rfl, he⟩]
    rfl
  have : ((interval (2 ^ 52) e).low + 1 : ℚ) = 2 ^ 54 := by exact_mod_cast h
  linarith

theorem high_eq (m : Nat) (e : Int) : ((interval m e).high : ℚ) = 4 * m + 2 := by
  unfold interval
  push_cast
  rfl

variable {m : Nat} {e : Int}

theorem bounds_of_holds (h : (interval m e).Holds t) : 4 * m - 2 ≤ t ∧ t ≤ 4 * m + 2 := by
  rw [← high_eq m e]
  exact ⟨(low_ge m e).trans h.bounds.1, h.bounds.2⟩

theorem isNearest_of_holds (h : (interval m e).Holds t) : Binary.IsNearest (t / 4) m := by
  obtain ⟨hlow, hhigh⟩ := bounds_of_holds h
  refine ⟨by linarith, by linarith, fun htie => ?_⟩
  have hclosed : (interval m e).closed := by
    apply h.closed_of_bound
    rcases htie with htie | htie
    · left
      have := low_ge m e
      linarith
    · right
      rw [high_eq]
      linarith
  exact of_decide_eq_true hclosed

theorem exponentNear_scaled {n d : Nat} (hn : 0 < n) (hd : 0 < d)
    (ht : (n / d : ℚ) = t * 2 ^ (e - 2)) :
    t < 2 ^ (Binary.exponentNear n d - e + 55) ∧
      (2 ^ (Binary.exponentNear n d - e + 54) ≤ t ∨ Binary.exponentNear n d = -1074) := by
  obtain ⟨-, hlt, hle⟩ := Binary.exponentNear_bounds hn hd
  generalize Binary.exponentNear n d = f at hlt hle
  have hpos := Binary.two_zpow_pos (e - 2)
  constructor
  · rw [ht, show f + 53 = f - e + 55 + (e - 2) by ring, zpow_add₀ two_ne_zero] at hlt
    exact lt_of_mul_lt_mul_right hlt hpos.le
  · refine hle.imp_left fun hle => ?_
    rw [ht, show f + 52 = f - e + 54 + (e - 2) by ring, zpow_add₀ two_ne_zero] at hle
    exact le_of_mul_le_mul_right hle hpos

/-- The exponent near a fraction in the interval of a double is that of the double, or it is one less and
the fraction is just below a power of two. -/
theorem exponentNear_of_holds (hs : Stored m e) {n d : Nat} (hn : 0 < n) (hd : 0 < d)
    (ht : (n / d : ℚ) = t * 2 ^ (e - 2)) (h : (interval m e).Holds t) :
    Binary.exponentNear n d = e ∨
      Binary.exponentNear n d = e - 1 ∧ m = 2 ^ 52 ∧ 2 ^ 54 - 1 ≤ t ∧ t < 2 ^ 54 := by
  have hge := (Binary.exponentNear_bounds hn hd).1
  obtain ⟨hlt, hle⟩ := exponentNear_scaled hn hd ht
  generalize Binary.exponentNear n d = f at hge hlt hle
  have hpow : ∀ k : Nat, f - e + 55 ≤ k → t < 2 ^ k := by
    intro k hk
    rw [← zpow_natCast]
    exact hlt.trans_le (Binary.two_zpow_le hk)
  obtain ⟨hlow, hhigh⟩ := bounds_of_holds h
  obtain ⟨hmlt, hemin, -, hnormal⟩ := hs
  rcases lt_trichotomy f e with hfe | hfe | hfe
  · right
    have ht54 := hpow 54 (by omega)
    have hm : m = 2 ^ 52 := by
      have : (m : ℚ) < 2 ^ 52 + 1 := by linarith
      have : m < 2 ^ 52 + 1 := by exact_mod_cast this
      omega
    subst hm
    have hpower := h.bounds.1
    rw [low_of_power (by omega)] at hpower
    refine ⟨?_, rfl, hpower, ht54⟩
    -- two exponents less would leave less than half of the power of two
    by_contra hne
    have := hpow 53 (by omega)
    linarith
  · exact .inl hfe
  · have ht55 : (2 : ℚ) ^ 55 ≤ t := by
      refine le_trans ?_ (hle.resolve_right (by omega))
      rw [← zpow_natCast]
      exact Binary.two_zpow_le (by push_cast; omega)
    have hm : (m : ℚ) + 1 ≤ 2 ^ 53 := by exact_mod_cast hmlt
    linarith

/-- What is in the interval of a double is rounded to its bits. -/
theorem nearestBits_of_holds (hs : Stored m e) {n d : Nat} (hn : 0 < n) (hd : 0 < d)
    (ht : (n / d : ℚ) = t * 2 ^ (e - 2)) (h : (interval m e).Holds t) :
    Binary.nearestBits n d = (e + 1074).toNat * 2 ^ 52 + m := by
  have hmlt := hs.mantissa_lt
  have hemin := hs.exponent_ge
  have hemax := hs.exponent_le
  have hnormal := hs.normal
  rcases exponentNear_of_holds hs hn hd ht h with hf | ⟨hf, rfl, hlow, hhigh⟩
  · have hquarter : (n / d / 2 ^ e : ℚ) = t / 4 := by
      have hpow : (2 : ℚ) ^ e = 2 ^ (e - 2) * 4 := by
        rw [← sub_add_cancel e 2, zpow_add₀ two_ne_zero, sub_add_cancel]
        norm_num
      rw [ht, hpow]
      field_simp
    have hnear : Binary.IsNearest (n / d / 2 ^ e) m := by
      rw [hquarter]
      exact isNearest_of_holds h
    rw [Binary.nearestBits_eq hn hd hf hnear]
    omega
  · have hhalf : (n / d / 2 ^ (e - 1) : ℚ) = t / 2 := by
      rw [ht, show e - 1 = e - 2 + 1 by ring, zpow_add₀ two_ne_zero, zpow_one]
      field_simp
    -- the mantissa has one bit too many, which carries into the exponent
    have hnear : Binary.IsNearest (n / d / 2 ^ (e - 1)) (2 ^ 53) := by
      rw [hhalf]
      refine ⟨?_, ?_, fun _ => rfl⟩ <;> push_cast <;> linarith
    have hfge := (Binary.exponentNear_bounds hn hd).1
    rw [Binary.nearestBits_eq hn hd hf hnear]
    omega

theorem magnitude_bounds {q : ℚ} (hs : Stored m e) (hm : 0 < m)
    (h : (interval m e).Holds (q / 2 ^ (e - 2))) :
    (2 : ℚ) ^ (-1075 : Int) ≤ q ∧ q < 2 ^ (1024 : Int) := by
  obtain ⟨hlow, hhigh⟩ := bounds_of_holds h
  have hm1 : (1 : ℚ) ≤ m := by exact_mod_cast hm
  have hm2 : (m : ℚ) + 1 ≤ 2 ^ 53 := by exact_mod_cast hs.mantissa_lt
  have hpos := Binary.two_zpow_pos (e - 2)
  have hmin := hs.exponent_ge
  have hmax := hs.exponent_le
  constructor
  · calc (2 : ℚ) ^ (-1075 : Int) ≤ 2 ^ (1 + (e - 2)) := Binary.two_zpow_le (by omega)
      _ = 2 * 2 ^ (e - 2) := by rw [zpow_add₀ two_ne_zero, zpow_one]
      _ ≤ q := by
        rw [← le_div_iff₀ hpos]
        linarith
  · calc q < 2 ^ 55 * 2 ^ (e - 2) := by
          rw [← div_lt_iff₀ hpos]
          linarith
      _ = 2 ^ (55 + (e - 2)) := by
          rw [zpow_add₀ two_ne_zero]
          norm_num
      _ ≤ 2 ^ (1024 : Int) := Binary.two_zpow_le (by omega)

end Decimal

end Dimensional.Number
