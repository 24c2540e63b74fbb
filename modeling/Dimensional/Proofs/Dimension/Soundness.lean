import Dimensional.Dimension.Expr
import Dimensional.Proofs.Dimension.Value

/-!
# Dimension expressions mean rational exponents

Read over the rationals, a dimension expression has exact exponents, whether or not they can be stored.
An expression that has a dimension has that of its meaning, so two expressions are compatible exactly
if they mean the same exponents.
-/

namespace Dimensional.DimensionExpr

/-- The exact exponents that an expression writes. -/
def meaning : DimensionExpr → BaseDimension → ℚ
  | marker v _, b => v.value b
  | prod d e, b => d.meaning b + e.meaning b
  | quot d e, b => d.meaning b - e.meaning b
  | recip d, b => -d.meaning b
  | pow d k, b => d.meaning b * k
  | sqrt d, b => d.meaning b / 2

theorem value_of_dimension {d : DimensionExpr} {v : Dimension} (h : d.dimension = .ok v)
    (b : BaseDimension) : v.value b = d.meaning b := by
  induction d generalizing v with
  | marker w s =>
    cases h
    rfl
  | prod d e ihd ihe =>
    obtain ⟨x, hx, h⟩ := Outcome.bind_eq_ok.mp h
    obtain ⟨y, hy, h⟩ := Outcome.bind_eq_ok.mp h
    rw [Dimension.value_of_add h, ihd hx, ihe hy, meaning]
  | quot d e ihd ihe =>
    obtain ⟨x, hx, h⟩ := Outcome.bind_eq_ok.mp h
    obtain ⟨y, hy, h⟩ := Outcome.bind_eq_ok.mp h
    rw [Dimension.value_of_sub h, ihd hx, ihe hy, meaning]
  | recip d ih =>
    obtain ⟨x, hx, h⟩ := Outcome.bind_eq_ok.mp h
    rw [Dimension.value_of_negate h, ih hx, meaning]
  | pow d k ih =>
    obtain ⟨x, hx, h⟩ := Outcome.bind_eq_ok.mp h
    rw [Dimension.value_of_scale h, ih hx, meaning]
  | sqrt d ih =>
    obtain ⟨x, hx, h⟩ := Outcome.bind_eq_ok.mp h
    rw [Dimension.value_of_halve h, ih hx, meaning]

theorem compatible_iff {d e : DimensionExpr} {v w : Dimension} (hv : d.dimension = .ok v)
    (hw : e.dimension = .ok w) : d.Compatible e ↔ v.Matches w := by
  simp only [Compatible, hv, hw]

/-- Every slot of a dimension holds the exact exponent of its expression, and two expressions pass the
check for equal dimensions exactly if their exact exponents agree. -/
theorem slots_exact_and_compatible_iff {d e : DimensionExpr} {v w : Dimension}
    (hv : d.dimension = .ok v) (hw : e.dimension = .ok w) :
    (∀ b, (v.exponent b).value = d.meaning b) ∧ (∀ b, (w.exponent b).value = e.meaning b) ∧
      (v.Matches w ↔ ∀ b, d.meaning b = e.meaning b) ∧
      (d.Compatible e ↔ ∀ b, d.meaning b = e.meaning b) := by
  have hd := value_of_dimension hv
  have he := value_of_dimension hw
  have hm : v.Matches w ↔ ∀ b, d.meaning b = e.meaning b := by
    simp only [Dimension.matches_iff, hd, he]
  exact ⟨hd, he, hm, (compatible_iff hv hw).trans hm⟩

theorem slots_exact_and_compatible_iff_unreduced :
    let x : DimensionExpr := marker { length := ⟨6, 4, by decide, by decide, by decide, by decide⟩ }
    let d := quot (prod x x) (marker (.base .time))
    let e := recip (quot (marker (.base .time)) (pow (marker (.base .length)) 3))
    let v : Dimension := { length := .whole 3, time := .whole (-1) }
    d.dimension = .ok v ∧ e.dimension = .ok v ∧
      (v.exponent .length).value = d.meaning .length ∧
      (d.Compatible e ↔ ∀ b, d.meaning b = e.meaning b) := by
  intro x d e v
  have hd : d.dimension = .ok v := by decide +kernel
  have he : e.dimension = .ok v := by decide +kernel
  obtain ⟨hslots, -, -, hcompatible⟩ := slots_exact_and_compatible_iff hd he
  exact ⟨hd, he, hslots .length, hcompatible⟩

end Dimensional.DimensionExpr
