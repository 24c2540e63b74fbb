import Dimensional.Proofs.Dimension.Text
import Dimensional.Proofs.Quantity.Derived

/-!
# Exponent forms

The exponent form reduces before it writes, so unlike the fraction form it never stops. It tells the
dimension, and the alternate text of a quantity shows it whatever symbol the dimension has of its own.
-/

namespace Dimensional

theorem DimensionExpr.shownUnit_alternate {d : DimensionExpr} {v : Dimension} (hv : d.dimension = .ok v)
    (h : ¬ v.IsDimensionless) : d.shownUnit true = .ok (.composed v) := by
  unfold shownUnit
  rw [if_pos rfl, hv]
  change (if v.IsDimensionless then _ else _) = _
  rw [if_neg h]
  rfl

namespace Quantity

variable {d : DimensionExpr} {v : Dimension}

theorem unitText_alternate (hv : d.dimension = .ok v) (h : ¬ v.IsDimensionless) :
    unitText d true = .ok (" " ++ Composition.exponents v) := by
  have hempty : ¬ (UnitName.composed v).IsEmpty := h
  rw [unitText_of_shownUnit (DimensionExpr.shownUnit_alternate hv h), if_neg hempty, if_pos rfl,
    UnitName.alternate]

theorem text_alternate (hv : d.dimension = .ok v) (h : ¬ v.IsDimensionless) (x : Float)
    (f : Number.Format) :
    (⟨x⟩ : Quantity d).text f true = .ok (Number.text f x ++ (" " ++ Composition.exponents v)) := by
  rw [text, unitText_alternate hv h]
  rfl

end Quantity

namespace Dimension

/-- Every dimension has an exponent form and a description, and each tells the values of its exponents.
The stored form tells the stored numbers. So alternate texts of quantities with a dimension end alike
exactly if the dimensions match. -/
theorem exponent_forms_faithful (v w : Dimension) :
    (∀ b, Exponent.ofFraction (v.exponent b).num (v.exponent b).den = .ok (v.exponent b).reduce) ∧
    ((UnitName.composed v).alternate = (UnitName.composed w).alternate ↔ v.Matches w) ∧
    (v.describe = w.describe ↔ v.Matches w) ∧
    (v.stored = w.stored ↔
      ∀ b, (v.exponent b).num = (w.exponent b).num ∧ (v.exponent b).den = (w.exponent b).den) ∧
    ∀ d e : DimensionExpr, d.dimension = .ok v → e.dimension = .ok w →
      ¬ v.IsDimensionless → ¬ w.IsDimensionless →
      ∃ s t, (∀ (x : Float) (f : Number.Format),
          (⟨x⟩ : Quantity d).text f true = .ok (Number.text f x ++ s)) ∧
        (∀ (x : Float) (f : Number.Format),
          (⟨x⟩ : Quantity e).text f true = .ok (Number.text f x ++ t)) ∧
        Quantity.unitText d true = .ok s ∧ Quantity.unitText e true = .ok t ∧ (s = t ↔ v.Matches w) := by
  refine ⟨?_, Composition.exponents_eq_iff, describe_eq_iff, ?_, ?_⟩
  · intro b
    exact Exponent.ofFraction_reduce (v.exponent b)
  · rw [stored_eq_iff]
    constructor
    · rintro rfl b
      exact ⟨rfl, rfl⟩
    · intro h
      exact ext_exponent fun b => Exponent.eq_of_num_den (h b).1 (h b).2
  · intro d e hv hw hd he
    refine ⟨" " ++ Composition.exponents v, " " ++ Composition.exponents w, ?_, ?_, ?_, ?_, ?_⟩
    · exact Quantity.text_alternate hv hd
    · exact Quantity.text_alternate hw he
    · exact Quantity.unitText_alternate hv hd
    · exact Quantity.unitText_alternate hw he
    · rw [String.append_right_inj, Composition.exponents_eq_iff]

theorem exponent_forms_faithful_least :
    let v : Dimension := { length := ⟨-2 ^ 31, 2, by decide, by decide, by decide, by decide⟩ }
    let w : Dimension := { length := .whole (-2 ^ 30) }
    let u : Dimension := { length := ⟨-2 ^ 31, 4, by decide, by decide, by decide, by decide⟩ }
    (¬ v.IsDimensionless ∧ ¬ w.IsDimensionless ∧ ¬ u.IsDimensionless) ∧
    Quantity.unitText (.marker v (some "")) true = Quantity.unitText (.marker w) true ∧
    Quantity.unitText (.marker v (some "")) true ≠ Quantity.unitText (.marker u) true ∧
    v.stored ≠ w.stored := by
  intro v w u
  have hv : ¬ v.IsDimensionless := by decide +kernel
  have hw : ¬ w.IsDimensionless := by decide +kernel
  have hu : ¬ u.IsDimensionless := by decide +kernel
  have hvw : v.Matches w := by decide +kernel
  have hvu : ¬ v.Matches u := by decide +kernel
  obtain ⟨-, -, -, hstored, htext⟩ := exponent_forms_faithful v w
  obtain ⟨-, -, -, -, htext'⟩ := exponent_forms_faithful v u
  obtain ⟨s, t, -, -, hs, ht, heq⟩ := htext (.marker v (some "")) (.marker w) rfl rfl hv hw
  obtain ⟨s', t', -, -, hs', ht', heq'⟩ := htext' (.marker v (some "")) (.marker u) rfl rfl hv hu
  refine ⟨⟨hv, hw, hu⟩, ?_, ?_, ?_⟩
  · rw [hs, ht, heq.mpr hvw]
  · rw [hs', ht']
    intro h
    exact hvu (heq'.mp (Except.ok.inj h))
  · intro h
    exact absurd ((hstored.mp h) .length) (by decide +kernel)

end Dimension

end Dimensional
