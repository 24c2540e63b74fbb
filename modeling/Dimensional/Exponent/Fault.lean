/-! # Why exponent arithmetic stops -/

namespace Dimensional

/-- A reason for exponent arithmetic to have no result. -/
inductive Fault where
  /-- An exponent is written over zero. -/
  | zeroDenominator
  /-- A result does not fit into the stored numbers. -/
  | outOfRange
  /-- The least stored number has no stored negative. -/
  | negationOverflow
deriving DecidableEq

/-- The text that reports a fault. -/
def Fault.message : Fault → String
  | .zeroDenominator => "rational exponent with a zero denominator"
  | .outOfRange => "rational exponent out of range"
  | .negationOverflow => "attempt to negate with overflow"

end Dimensional
