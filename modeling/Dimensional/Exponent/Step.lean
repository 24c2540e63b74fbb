import Dimensional.Exponent.Basic

/-!
# Calculations with exponents

A calculation is a list of steps. A step that has no result leaves the exponent as it was.
-/

namespace Dimensional.Exponent

/-- One step of a calculation. -/
inductive Step where
  | add (b : Exponent)
  | sub (b : Exponent)
  | neg
  | scale (k : Int)
  | halve
  | reduce
  | abs
  | set (b : Exponent)

/-- The result of a step. -/
def Step.apply (a : Exponent) : Step → Except Fault Exponent
  | add b => a.add b
  | sub b => a.sub b
  | neg => a.neg
  | scale k => a.scale k
  | halve => a.halve
  | reduce => .ok a.reduce
  | abs => a.abs
  | set b => .ok b

/-- The exponent after a step. -/
def Step.next (a : Exponent) (s : Step) : Exponent :=
  match s.apply a with
  | .ok b => b
  | .error _ => a

/-- The exponent after all steps. -/
def run (a : Exponent) (steps : List Step) : Exponent :=
  steps.foldl Step.next a

end Dimensional.Exponent
