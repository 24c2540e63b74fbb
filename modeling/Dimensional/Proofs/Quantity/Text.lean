import Dimensional.Proofs.Composition.Words
import Dimensional.Proofs.UnitName
import Dimensional.Quantity.Text

/-!
# The unit behind a number

An expression without a symbol of its own is shown by the name of its dimension, which depends on the
exponents alone.
-/

namespace Dimensional

namespace DimensionExpr

variable {d : DimensionExpr} {v : Dimension}

/-- The symbol that an expression brings itself. The constructors bring none. -/
def ownSymbol : DimensionExpr → Option String
  | marker _ symbol => symbol
  | _ => none

theorem symbol_of_ownSymbol (h : d.ownSymbol = none) : d.symbol = d.dimension.map Registry.lookup := by
  cases d with
  | marker v s =>
    rw [ownSymbol] at h
    rw [h]
    rfl
  | _ => rfl

theorem unitName_of_ownSymbol (h : d.ownSymbol = none) (hv : d.dimension = .ok v) :
    d.unitName = .ok (.forDimension v) := by
  rw [unitName, symbol_of_ownSymbol h, hv, UnitName.forDimension]
  cases hs : Registry.lookup v with
  | some s =>
    rw [Except.map, hs]
    rfl
  | none =>
    rw [Except.map, hs]
    rfl

end DimensionExpr

namespace UnitName

theorem isEmpty_forDimension {v : Dimension} : (forDimension v).IsEmpty ↔ v.IsDimensionless := by
  cases h : Registry.lookup v with
  | some s =>
    rw [forDimension_of_lookup h, IsEmpty, String.isEmpty_iff]
    have hs : (forDimension v).text = .ok s := by rw [forDimension_of_lookup h, text_registered]
    exact text_forDimension_eq_empty hs
  | none => rw [forDimension_of_none h, IsEmpty]

end UnitName

namespace Quantity

variable {d : DimensionExpr} {v : Dimension}

theorem unitText_of_isDimensionless (hd : d.ownSymbol = none) (hv : d.dimension = .ok v)
    (h : v.IsDimensionless) : unitText d false = .ok "" := by
  rw [unitText, DimensionExpr.shownUnit, if_neg (by simp), DimensionExpr.unitName_of_ownSymbol hd hv]
  change (if (UnitName.forDimension v).IsEmpty then _ else _) = _
  rw [if_pos (UnitName.isEmpty_forDimension.mpr h)]
  rfl

theorem unitText_of_not_isDimensionless (hd : d.ownSymbol = none) (hv : d.dimension = .ok v)
    (h : ¬ v.IsDimensionless) {s : String} (hs : (UnitName.forDimension v).text = .ok s) :
    unitText d false = .ok (" " ++ s) := by
  rw [unitText, DimensionExpr.shownUnit, if_neg (by simp), DimensionExpr.unitName_of_ownSymbol hd hv]
  change (if (UnitName.forDimension v).IsEmpty then _ else _) = _
  rw [if_neg (mt UnitName.isEmpty_forDimension.mp h), if_neg (by simp), hs]
  rfl

theorem text_of_unitText {s : String} (h : unitText d false = .ok s) (x : Float) :
    (⟨x⟩ : Quantity d).text = .ok (Number.text {} x ++ s) := by
  rw [text, h]
  rfl

end Quantity

end Dimensional
