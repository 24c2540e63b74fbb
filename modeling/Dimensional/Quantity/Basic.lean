import Dimensional.Dimension.Error
import Dimensional.Dimension.Named
import Dimensional.Number.Arithmetic

/-!
# Quantities

A quantity is a number in the coherent SI unit of its dimension. The dimension is part of the type, so
products, quotients, powers and roots build the dimension of their result, and sums and comparisons ask
for a proof that the dimensions of both sides are compatible.
-/

namespace Dimensional

/-- A number with a dimension. -/
structure Quantity (d : DimensionExpr) where
  value : Float

namespace Quantity

variable {d e : DimensionExpr}

/-- Zero in a dimension. -/
def zero : Quantity d := ⟨0⟩

instance : Inhabited (Quantity d) := ⟨zero⟩

/-- Not a number, in a dimension. -/
def nan : Quantity d := ⟨Number.Binary.nan.toFloat⟩

/-! ## Operands of one dimension -/

/-- The same quantity under another expression of its dimension. -/
def cast (q : Quantity d) (_ : d.Compatible e := by decide) : Quantity e :=
  ⟨q.value⟩

/-- The sum, under the expression of the left side. -/
def add (p : Quantity d) (q : Quantity e) (_ : d.Compatible e := by decide) : Quantity d :=
  ⟨p.value + q.value⟩

/-- The difference, under the expression of the left side. -/
def sub (p : Quantity d) (q : Quantity e) (_ : d.Compatible e := by decide) : Quantity d :=
  ⟨p.value - q.value⟩

/-- The quantity as a multiple of a unit. -/
def inUnit (q : Quantity d) (unit : Quantity e) (_ : d.Compatible e := by decide) : Float :=
  q.value / unit.value

/-- Equality of the numbers. A number that is none differs from itself. -/
def beq (p : Quantity d) (q : Quantity e) (_ : d.Compatible e := by decide) : Bool :=
  p.value == q.value

/-- The order of the numbers, if both are numbers. -/
def compare? (p : Quantity d) (q : Quantity e) (_ : d.Compatible e := by decide) : Option Ordering :=
  if p.value < q.value then some .lt
  else if p.value == q.value then some .eq
  else if q.value < p.value then some .gt
  else none

/-- The smaller of two quantities. -/
def min (p q : Quantity d) : Quantity d :=
  ⟨Number.lesser p.value q.value⟩

/-- The larger of two quantities. -/
def max (p q : Quantity d) : Quantity d :=
  ⟨Number.greater p.value q.value⟩

/-- The sum of a list, added from the left to zero. -/
def sum (qs : List (Quantity d)) : Quantity d :=
  qs.foldl (fun acc q => ⟨acc.value + q.value⟩) zero

/-! ## Plain numbers -/

/-- The multiple by a plain number. -/
def scale (q : Quantity d) (k : Float) : Quantity d :=
  ⟨q.value * k⟩

/-- The multiple of a plain number, which stands on the left. -/
def scaleLeft (k : Float) (q : Quantity d) : Quantity d :=
  ⟨k * q.value⟩

/-- The quotient by a plain number. -/
def divide (q : Quantity d) (k : Float) : Quantity d :=
  ⟨q.value / k⟩

/-- The remainder of the division by a plain number. -/
def modulo (q : Quantity d) (k : Float) : Quantity d :=
  ⟨Number.remainder q.value k⟩

/-- The opposite quantity. -/
def neg (q : Quantity d) : Quantity d :=
  ⟨-q.value⟩

/-- The magnitude. -/
def abs (q : Quantity d) : Quantity d :=
  ⟨q.value.abs⟩

/-! ## New dimensions -/

/-- The product. -/
def times (p : Quantity d) (q : Quantity e) : Quantity (.prod d e) :=
  ⟨p.value * q.value⟩

/-- The quotient. -/
def per (p : Quantity d) (q : Quantity e) : Quantity (.quot d e) :=
  ⟨p.value / q.value⟩

/-- A plain number divided by the quantity. -/
def under (k : Float) (q : Quantity d) : Quantity (.recip d) :=
  ⟨k / q.value⟩

/-- The reciprocal. -/
def recip (q : Quantity d) : Quantity (.recip d) :=
  under 1 q

/-- The `k`-th power, by the power function of real numbers. -/
def pow (q : Quantity d) (k : Int) : Quantity (.pow d k) :=
  ⟨q.value.pow (.ofInt k)⟩

/-- The square root of a dimension that has one. -/
def sqrt (q : Quantity d) (_ : d.HasExactRoot := by decide) : Quantity (.sqrt d) :=
  ⟨q.value.sqrt⟩

/-- The square root, with the dimension checked when it is taken. -/
def sqrt? (q : Quantity d) : Except DimensionError (Quantity (.sqrt d)) := do
  let v ← d.dimension.mapError .fault
  let _ ← v.checkedSqrt
  return ⟨q.value.sqrt⟩

/-! ## Angles -/

/-- The sine of an angle. -/
def sin (q : Quantity Dim.angle) : Float :=
  q.value.sin

/-- The cosine of an angle. -/
def cos (q : Quantity Dim.angle) : Float :=
  q.value.cos

/-- The tangent of an angle. -/
def tan (q : Quantity Dim.angle) : Float :=
  q.value.tan

end Quantity

end Dimensional
