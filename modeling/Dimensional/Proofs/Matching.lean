import Dimensional.Dimension.Error
import Dimensional.Proofs.UnitName

/-!
# What matching dimensions share

Exponents match exactly if they are one rational number, and then also their hashes agree. Almost
nothing tells matching dimensions apart: the checks, the registry, the exponent form and the arithmetic
see the values alone.
-/

namespace Dimensional

/-! ## Matching exponents -/

namespace Exponent

variable {a b : Exponent}

theorem matches_equivalence : Equivalence Matches where
  refl _ := rfl
  symm h := by
    rw [matches_iff_value_eq] at h ⊢
    exact h.symm
  trans h h' := by
    rw [matches_iff_value_eq] at h h' ⊢
    exact h.trans h'

theorem matches_iff_reduce_eq : a.Matches b ↔ a.reduce = b.reduce := by
  rw [matches_iff_value_eq, reduce_eq_iff_value_eq]

theorem key_eq_iff_reduce_eq : a.key = b.key ↔ a.reduce = b.reduce := by
  unfold key
  constructor
  · intro h
    simp only [List.cons.injEq, and_true] at h
    cases ha : a.reduce
    cases hb : b.reduce
    simp only [ha, hb] at h
    simp only [mk.injEq]
    exact h
  · intro h
    rw [h]

theorem matches_iff_key_eq : a.Matches b ↔ a.key = b.key := by
  rw [matches_iff_reduce_eq, key_eq_iff_reduce_eq]

/-- The answers that two exponents share, however they are stored. -/
structure Alike (a b : Exponent) : Prop where
  isZero : a.IsZero ↔ b.IsZero
  isInteger : a.IsInteger ↔ b.IsInteger
  isPositive : a.IsPositive ↔ b.IsPositive
  isNegative : a.IsNegative ↔ b.IsNegative
  isOne : a.IsOne ↔ b.IsOne
  text : a.text = b.text

theorem Matches.alike (h : a.Matches b) : a.Alike b := by
  have hvalue : a.value = b.value := matches_iff_value_eq.mp h
  have hreduce : a.reduce = b.reduce := matches_iff_reduce_eq.mp h
  constructor
  · rw [isZero_iff_value, isZero_iff_value, hvalue]
  · rw [isInteger_iff_value, isInteger_iff_value, hvalue]
  · rw [isPositive_iff_value, isPositive_iff_value, hvalue]
  · rw [isNegative_iff_value, isNegative_iff_value, hvalue]
  · rw [isOne_iff_value, isOne_iff_value, hvalue]
  · unfold text
    rw [hreduce]

theorem add_congr {c d : Exponent} (h : a.Matches b) (h' : c.Matches d) : a.add c = b.add d := by
  rw [add_eq_ofValue, add_eq_ofValue, matches_iff_value_eq.mp h, matches_iff_value_eq.mp h']

theorem scale_congr (h : a.Matches b) (k : ℤ) : a.scale k = b.scale k := by
  rw [scale_eq_ofValue, scale_eq_ofValue, matches_iff_value_eq.mp h]

theorem halve_congr (h : a.Matches b) : a.halve = b.halve := by
  rw [halve_eq_ofValue, halve_eq_ofValue, matches_iff_value_eq.mp h]

end Exponent

/-! ## Matching dimensions -/

namespace Dimension

variable {v w : Dimension}

theorem matches_equivalence : Equivalence Matches where
  refl _ _ := rfl
  symm := Matches.symm
  trans := Matches.trans

theorem matches_iff_key_eq : v.Matches w ↔ v.key = w.key := by
  have hkeys : v.key = w.key ↔ ∀ b, (v.exponent b).key = (w.exponent b).key := by
    constructor
    · intro h b
      simp only [key, Exponent.key, BaseDimension.all, List.flatMap_cons, List.flatMap_nil,
        List.cons_append, List.nil_append, List.cons.injEq] at h
      cases b <;> simp [Exponent.key, h]
    · intro h
      simp only [key, h]
  rw [hkeys]
  exact forall_congr' fun b => Exponent.matches_iff_key_eq

theorem isDimensionless_congr (h : v.Matches w) : v.IsDimensionless ↔ w.IsDimensionless :=
  ⟨fun hv => h.symm.trans hv, fun hw => h.trans hw⟩

theorem isIntegral_congr (h : v.Matches w) : v.IsIntegral ↔ w.IsIntegral :=
  forall_congr' fun b => (h b).alike.isInteger

theorem describe_congr (h : v.Matches w) : v.describe = w.describe := by
  unfold describe
  have hzero : ∀ b, (v.exponent b).IsZero ↔ (w.exponent b).IsZero := fun b => (h b).alike.isZero
  have htext : ∀ b, (v.exponent b).text = (w.exponent b).text := fun b => (h b).alike.text
  simp only [hzero, htext]

theorem add_congr {x y : Dimension} (h : v.Matches w) (h' : x.Matches y) : v.add x = w.add y := by
  unfold add
  congr 1
  funext b
  exact Exponent.add_congr (h b) (h' b)

theorem scale_congr (h : v.Matches w) (k : ℤ) : v.scale k = w.scale k := by
  unfold scale
  congr 1
  funext b
  exact Exponent.scale_congr (h b) k

theorem halve_congr (h : v.Matches w) : v.halve = w.halve := by
  unfold halve
  congr 1
  funext b
  exact Exponent.halve_congr (h b)

theorem hasExactRoot_congr (h : v.Matches w) : v.hasExactRoot = w.hasExactRoot := by
  unfold hasExactRoot
  rw [halve_congr h]

/-- Of two dimensions, either both have this root, or each is refused as inexact, or the same fault
stops both checks. -/
inductive RootsAgree (v w : Dimension) : Prop where
  | root (u : Dimension) (hv : v.checkedSqrt = .ok u) (hw : w.checkedSqrt = .ok u)
  | inexact (hv : v.checkedSqrt = .error (.inexactRoot v)) (hw : w.checkedSqrt = .error (.inexactRoot w))
  | fault (f : Fault) (hv : v.checkedSqrt = .error (.fault f)) (hw : w.checkedSqrt = .error (.fault f))

theorem Matches.rootsAgree (h : v.Matches w) : v.RootsAgree w := by
  have hhalve := halve_congr h
  cases hv : v.halve with
  | error f =>
    rw [hv] at hhalve
    exact .fault f (by simp only [checkedSqrt, hv]) (by simp only [checkedSqrt, ← hhalve])
  | ok u =>
    rw [hv] at hhalve
    by_cases hu : u.IsIntegral
    · exact .root u (by simp only [checkedSqrt, hv, if_pos hu]) (by simp only [checkedSqrt, ← hhalve, if_pos hu])
    · exact .inexact (by simp only [checkedSqrt, hv, if_neg hu])
        (by simp only [checkedSqrt, ← hhalve, if_neg hu])

/-- The answers that two dimensions share, however their exponents are stored. The fraction form of the
unit is not among them. -/
structure Alike (v w : Dimension) : Prop where
  exponent (b : BaseDimension) : (v.exponent b).Alike (w.exponent b)
  isDimensionless : v.IsDimensionless ↔ w.IsDimensionless
  isIntegral : v.IsIntegral ↔ w.IsIntegral
  lookup : Registry.lookup v = Registry.lookup w
  name : (UnitName.forDimension v).Same (.forDimension w)
  nameKey : (UnitName.forDimension v).key = (UnitName.forDimension w).key
  exponents : Composition.exponents v = Composition.exponents w
  describe : v.describe = w.describe
  scale (k : Int) : v.scale k = w.scale k
  halve : v.halve = w.halve
  hasExactRoot : v.hasExactRoot = w.hasExactRoot
  roots : v.RootsAgree w

end Dimension

theorem Composition.exponents_congr {v w : Dimension} (h : v.Matches w) : exponents v = exponents w := by
  unfold exponents
  have hzero : ∀ b, (v.exponent b).IsZero ↔ (w.exponent b).IsZero := fun b => (h b).alike.isZero
  have hreduce : ∀ b, (v.exponent b).reduce = (w.exponent b).reduce :=
    fun b => Exponent.matches_iff_reduce_eq.mp (h b)
  simp only [hzero, hreduce]

theorem UnitName.key_congr {v w : Dimension} (h : v.Matches w) :
    (forDimension v).key = (forDimension w).key := by
  have hlookup := Registry.lookup_congr h
  cases hv : Registry.lookup v with
  | some s => rw [forDimension_of_lookup hv, forDimension_of_lookup (hlookup ▸ hv)]
  | none =>
    rw [forDimension_of_none hv, forDimension_of_none (hlookup ▸ hv), key, key,
      Dimension.matches_iff_key_eq.mp h]

theorem Dimension.Matches.alike {v w : Dimension} (h : v.Matches w) : v.Alike w where
  exponent b := (h b).alike
  isDimensionless := isDimensionless_congr h
  isIntegral := isIntegral_congr h
  lookup := Registry.lookup_congr h
  name := UnitName.same_forDimension_iff.mpr h
  nameKey := UnitName.key_congr h
  exponents := Composition.exponents_congr h
  describe := describe_congr h
  scale := scale_congr h
  halve := halve_congr h
  hasExactRoot := hasExactRoot_congr h
  roots := h.rootsAgree

namespace Dimension

/-- Exponents match exactly if they are one rational number, and exactly if their lowest terms or their
hashes agree. So matching is an equivalence, slot by slot as well, and matching dimensions are alike. -/
theorem matches_equality_of_values :
    (∀ a b : Exponent, (a.Matches b ↔ a.value = b.value) ∧ (a.Matches b ↔ a.reduce = b.reduce) ∧
      (a.Matches b ↔ a.key = b.key)) ∧
    Equivalence Exponent.Matches ∧
    (∀ v w : Dimension, (v.Matches w ↔ ∀ b, (v.exponent b).value = (w.exponent b).value) ∧
      (v.Matches w ↔ v.key = w.key)) ∧
    Equivalence Dimension.Matches ∧
    (∀ v w : Dimension, v.Matches w → v.Alike w) ∧
    ∀ v w x y : Dimension, v.Matches w → x.Matches y → v.add x = w.add y := by
  refine ⟨?_, Exponent.matches_equivalence, ?_, matches_equivalence, ?_, ?_⟩
  · intro a b
    exact ⟨Exponent.matches_iff_value_eq, Exponent.matches_iff_reduce_eq, Exponent.matches_iff_key_eq⟩
  · intro v w
    exact ⟨matches_iff, matches_iff_key_eq⟩
  · intro v w h
    exact h.alike
  · intro v w x y h h'
    exact add_congr h h'

theorem matches_equality_of_values_speed :
    let v : Dimension := { length := .one, time := .whole (-1) }
    let w : Dimension :=
      { length := ⟨4, 4, by decide, by decide, by decide, by decide⟩
        time := ⟨-6, 6, by decide, by decide, by decide, by decide⟩ }
    v ≠ w ∧ v.key = w.key ∧ v.Alike w ∧ v.add v = w.add w ∧ Registry.lookup w = some "m/s" ∧
      w.checkedSqrt = .error (.inexactRoot w) := by
  intro v w
  obtain ⟨-, -, hkey, -, halike, hadd⟩ := matches_equality_of_values
  have h : v.Matches w := by decide +kernel
  exact ⟨by decide +kernel, (hkey v w).2.mp h, halike v w h, hadd v w v w h h, by decide +kernel,
    by decide +kernel⟩

end Dimension

end Dimensional
