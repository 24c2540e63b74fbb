import Dimensional.Dimension.Error

/-!
# Calculations with dimensions

A calculation is a list of steps. A step that has no result leaves the dimension as it was.
-/

namespace Dimensional.Dimension

/-- One step of a calculation. -/
inductive Step where
  | add (w : Dimension)
  | sub (w : Dimension)
  | negate
  | scale (k : Int)
  | halve
  | sqrt
  | set (w : Dimension)

/-- The result of a step. -/
def Step.apply (v : Dimension) : Step → Except DimensionError Dimension
  | add w => (v.add w).mapError .fault
  | sub w => (v.sub w).mapError .fault
  | negate => v.negate.mapError .fault
  | scale k => (v.scale k).mapError .fault
  | halve => v.halve.mapError .fault
  | sqrt => v.checkedSqrt
  | set w => .ok w

/-- The dimension after a step. -/
def Step.next (v : Dimension) (s : Step) : Dimension :=
  match s.apply v with
  | .ok w => w
  | .error _ => v

/-- The dimension after all steps. -/
def run (v : Dimension) (steps : List Step) : Dimension :=
  steps.foldl Step.next v

end Dimensional.Dimension
