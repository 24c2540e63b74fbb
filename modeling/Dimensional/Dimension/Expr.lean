import Dimensional.Dimension.Basic

/-!
# Dimension expressions

A dimension expression says how a dimension is written: a marker stands for a dimension, and the
constructors build the dimensions of products, quotients, reciprocals, powers and roots. Two
expressions of one dimension may be written in different ways.
-/

namespace Dimensional

/-- A way to write a dimension. -/
inductive DimensionExpr where
  /-- A dimension by name, with a symbol of its own if it has one. -/
  | marker (dimension : Dimension) (symbol : Option String := none)
  | prod (a b : DimensionExpr)
  | quot (a b : DimensionExpr)
  | recip (a : DimensionExpr)
  | pow (a : DimensionExpr) (k : Int)
  | sqrt (a : DimensionExpr)

namespace DimensionExpr

/-- The dimension that is written. -/
def dimension : DimensionExpr → Except Fault Dimension
  | marker v _ => .ok v
  | prod a b => do
    let v ← a.dimension
    let w ← b.dimension
    v.add w
  | quot a b => do
    let v ← a.dimension
    let w ← b.dimension
    v.sub w
  | recip a => do (← a.dimension).negate
  | pow a k => do (← a.dimension).scale k
  | sqrt a => do (← a.dimension).halve

/-- Both expressions have a dimension, and the two match. -/
def Compatible (d e : DimensionExpr) : Prop :=
  match d.dimension, e.dimension with
  | .ok v, .ok w => v.Matches w
  | _, _ => False

instance (d e : DimensionExpr) : Decidable (d.Compatible e) := by
  unfold Compatible
  split <;> infer_instance

/-- The expression has a dimension, and every exponent of it is even. -/
def HasExactRoot (d : DimensionExpr) : Prop :=
  (d.dimension.bind Dimension.hasExactRoot).toOption = some true

instance (d : DimensionExpr) : Decidable d.HasExactRoot :=
  inferInstanceAs (Decidable (_ = _))

end DimensionExpr

end Dimensional
