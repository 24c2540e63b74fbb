import Dimensional.Dimension.Basic

/-!
# Checks on dimensions

Sums and comparisons need equal dimensions, and a square root needs exponents that halve to whole
numbers.
-/

namespace Dimensional

/-- A broken rule about dimensions. -/
inductive DimensionError where
  /-- Two operands have different dimensions. -/
  | incompatible (expected found : Dimension)
  /-- A square root leaves a fractional exponent. -/
  | inexactRoot (v : Dimension)
  /-- An exponent on the way has no result. -/
  | fault (f : Fault)
deriving DecidableEq

/-- The text that reports a broken rule. -/
def DimensionError.message : DimensionError → String
  | .incompatible expected found =>
    "incompatible dimensions: expected [" ++ expected.stored ++ "], found [" ++ found.stored ++ "]"
  | .inexactRoot v => "square root of [" ++ v.stored ++ "] is not exact"
  | .fault f => f.message

namespace Dimension

/-- Accepts `found` where `expected` is required. -/
def ensureMatches (expected found : Dimension) : Except DimensionError Unit :=
  if expected.Matches found then .ok () else .error (.incompatible expected found)

/-- The dimension of a square root, refused unless it is exact. All slots are halved first. -/
def checkedSqrt (v : Dimension) : Except DimensionError Dimension :=
  match v.halve with
  | .error f => .error (.fault f)
  | .ok h => if h.IsIntegral then .ok h else .error (.inexactRoot v)

end Dimension

end Dimensional
