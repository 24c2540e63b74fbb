import Dimensional.BaseDimension
import Dimensional.Exponent.Basic

/-!
# Dimensions

The dimension of a physical quantity is one exponent per base dimension. Products, quotients, powers
and roots of quantities work on the exponents slot by slot, in slot order, and stop at the first slot
that has no result.
-/

namespace Dimensional

/-- One exponent per base dimension. -/
structure Dimension where
  length : Exponent := .zero
  mass : Exponent := .zero
  time : Exponent := .zero
  current : Exponent := .zero
  temperature : Exponent := .zero
  substance : Exponent := .zero
  luminousIntensity : Exponent := .zero
deriving DecidableEq

namespace Dimension

/-- The dimension of a pure number. -/
def dimensionless : Dimension := {}

instance : Inhabited Dimension := ⟨dimensionless⟩

/-- The exponent of one base dimension. -/
def exponent (v : Dimension) : BaseDimension → Exponent
  | .length => v.length
  | .mass => v.mass
  | .time => v.time
  | .current => v.current
  | .temperature => v.temperature
  | .substance => v.substance
  | .luminousIntensity => v.luminousIntensity

theorem ext_exponent {v w : Dimension} (h : ∀ b, v.exponent b = w.exponent b) : v = w := by
  cases v
  cases w
  simp only [mk.injEq]
  exact ⟨h .length, h .mass, h .time, h .current, h .temperature, h .substance, h .luminousIntensity⟩

/-- The dimension with the given exponents. -/
def ofFn (f : BaseDimension → Exponent) : Dimension where
  length := f .length
  mass := f .mass
  time := f .time
  current := f .current
  temperature := f .temperature
  substance := f .substance
  luminousIntensity := f .luminousIntensity

@[simp]
theorem exponent_ofFn (f : BaseDimension → Exponent) (b : BaseDimension) :
    (ofFn f).exponent b = f b := by
  cases b <;> rfl

/-- The dimension whose exponents are worked out one after the other. The first fault is the fault of
the whole. -/
def build (f : BaseDimension → Except Fault Exponent) : Except Fault Dimension := do
  let length ← f .length
  let mass ← f .mass
  let time ← f .time
  let current ← f .current
  let temperature ← f .temperature
  let substance ← f .substance
  let luminousIntensity ← f .luminousIntensity
  return { length, mass, time, current, temperature, substance, luminousIntensity }

/-- A base dimension to the first power. -/
def base (b : BaseDimension) : Dimension :=
  ofFn fun c => if c = b then .one else .zero

/-! ## Arithmetic -/

/-- The dimension of a product. -/
def add (v w : Dimension) : Except Fault Dimension :=
  build fun b => (v.exponent b).add (w.exponent b)

/-- The dimension of a reciprocal. -/
def negate (v : Dimension) : Except Fault Dimension :=
  build fun b => (v.exponent b).neg

/-- The dimension of a quotient. All of `w` is negated before anything is added. -/
def sub (v w : Dimension) : Except Fault Dimension := do
  v.add (← w.negate)

/-- The dimension of a `k`-th power. -/
def scale (v : Dimension) (k : Int) : Except Fault Dimension :=
  build fun b => (v.exponent b).scale k

/-- The dimension of a square root. -/
def halve (v : Dimension) : Except Fault Dimension :=
  build fun b => (v.exponent b).halve

/-! ## Comparing and classifying -/

/-- Two dimensions have the same exponents as values, whatever form they are stored in. -/
def Matches (v w : Dimension) : Prop :=
  ∀ b, (v.exponent b).Matches (w.exponent b)

instance (v w : Dimension) : Decidable (v.Matches w) :=
  inferInstanceAs (Decidable (∀ b, (v.exponent b).Matches (w.exponent b)))

/-- Every exponent is zero. -/
def IsDimensionless (v : Dimension) : Prop :=
  v.Matches dimensionless

instance (v : Dimension) : Decidable v.IsDimensionless :=
  inferInstanceAs (Decidable (v.Matches dimensionless))

/-- Every exponent is a whole number. -/
def IsIntegral (v : Dimension) : Prop :=
  ∀ b, (v.exponent b).IsInteger

instance (v : Dimension) : Decidable v.IsIntegral :=
  inferInstanceAs (Decidable (∀ b, (v.exponent b).IsInteger))

/-- Whether a square root keeps every exponent whole. -/
def hasExactRoot (v : Dimension) : Except Fault Bool := do
  return decide (← v.halve).IsIntegral

/-- The numbers that identify a dimension up to the form it is stored in, for hashing. -/
def key (v : Dimension) : List Int :=
  BaseDimension.all.flatMap fun b => (v.exponent b).key

/-! ## Text -/

/-- All slots as stored, `L=1/1, M=0/1, …`. -/
def stored (v : Dimension) : String :=
  ", ".intercalate (BaseDimension.all.map fun b => b.label ++ "=" ++ (v.exponent b).stored)

/-- The slots that are not zero, as values: `DimensionVector(L=1, T=-2)`. -/
def describe (v : Dimension) : String :=
  let slots := BaseDimension.all.filter fun b => ¬ (v.exponent b).IsZero
  "DimensionVector(" ++ ", ".intercalate (slots.map fun b => b.label ++ "=" ++ (v.exponent b).text) ++ ")"

end Dimension

end Dimensional
