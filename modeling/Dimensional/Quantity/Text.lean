import Dimensional.Number.Layout
import Dimensional.Quantity.Basic
import Dimensional.UnitName

/-!
# The text of quantities

A quantity is shown as its number, a space and the name of its unit. The alternate text always composes
the unit from base units, except for quantities without a dimension.
-/

namespace Dimensional

/-- The unit name that stands behind the number of a quantity. -/
def DimensionExpr.shownUnit (d : DimensionExpr) (alternate : Bool) : Except Fault UnitName := do
  if alternate then
    let v ← d.dimension
    if v.IsDimensionless then d.unitName else return .composed v
  else d.unitName

namespace Quantity

variable {d : DimensionExpr}

/-- What follows the number: a space and the unit, or nothing if the unit shows nothing. -/
def unitText (d : DimensionExpr) (alternate : Bool) : Except Fault String := do
  let name ← d.shownUnit alternate
  if name.IsEmpty then return ""
  else if alternate then return " " ++ name.alternate
  else return " " ++ (← name.text)

/-- The number in a format, and the unit. The format does not reach the unit. -/
def text (q : Quantity d) (f : Number.Format := {}) (alternate : Bool := false) : Except Fault String := do
  return Number.text f q.value ++ (← unitText d alternate)

/-- Whether the unit is shown as `symbol`. -/
def hasUnit (_ : Quantity d) (symbol : String) : Except Fault Bool := do
  (← d.unitName).matchesText symbol

/-- The quantity in words. -/
def describe (q : Quantity d) (places : Option Nat := none) : Except Fault Description := do
  return .record "Quantity"
    [("value", Number.technicalText places q.value), ("dimension", (← d.dimension).describe)]

end Quantity

end Dimensional
