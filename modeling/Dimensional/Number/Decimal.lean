import Dimensional.Number.Binary

/-!
# Decimals

A decimal is a coefficient times a power of ten. Every finite double is a decimal exactly. The shortest
decimal of a double is the one with the fewest digits that still rounds to the double.
-/

namespace Dimensional.Number

open scoped Powers

/-- The number `coefficient * 10 ^ exponent`. -/
structure Decimal where
  coefficient : Nat
  exponent : Int
deriving DecidableEq

namespace Decimal

/-- The exact value of `m * 2 ^ e`. A negative power of two is the same power of ten times the opposite
power of five. -/
def exact (m : Nat) (e : Int) : Decimal :=
  if 0 ≤ e then ⟨m * 2 ^ e.toNat, 0⟩ else ⟨m * 5 ^ (-e).toNat, e⟩

/-- The digits of the coefficient. -/
def digits (x : Decimal) : List Char :=
  Nat.toDigits 10 x.coefficient

/-- Takes up to `fuel` zeros off the end of the coefficient. -/
def stripUpTo : Nat → Nat → Int → Decimal
  | 0, c, e => ⟨c, e⟩
  | fuel + 1, c, e => if c % 10 = 0 then stripUpTo fuel (c / 10) (e + 1) else ⟨c, e⟩

/-- The same number without zeros at the end of its coefficient. -/
def strip (x : Decimal) : Decimal :=
  if x.coefficient = 0 then ⟨0, 0⟩ else stripUpTo x.digits.length x.coefficient x.exponent

/-! ## The shortest decimal -/

/-- The numbers that round to one double lie between two bounds. All is measured in one small unit. -/
structure Interval where
  low : Nat
  value : Nat
  high : Nat
  /-- The bounds themselves round to the double. -/
  closed : Bool

/-- The number rounds to the double of the interval. -/
def Interval.contains (i : Interval) (x : Nat) : Bool :=
  if i.closed then i.low ≤ x && x ≤ i.high else i.low < x && x < i.high

/-- The multiple of `10 ^ g` in the interval that is nearest to its value, counted in `10 ^ g`. Only the
two neighbours of the value can be it. Of two that are equally near the greater is taken. -/
def Interval.onGrid? (i : Interval) (g : Nat) : Option Nat :=
  let below := i.value / 10 ^ g
  let lower := i.contains (below * 10 ^ g)
  let upper := i.contains ((below + 1) * 10 ^ g)
  if i.value % 10 ^ g = 0 then some below
  else if lower && upper then
    if 2 * (i.value % 10 ^ g) < 10 ^ g then some below else some (below + 1)
  else if lower then some below
  else if upper then some (below + 1)
  else none

/-- The coarsest grid not coarser than `10 ^ g` that has a multiple in the interval, and the multiple. -/
def Interval.coarsest (i : Interval) : Nat → Nat × Nat
  | 0 => (i.value, 0)
  | g + 1 =>
    match i.onGrid? (g + 1) with
    | some c => (c, g + 1)
    | none => i.coarsest g

/-- The interval of the double `m * 2 ^ e`, in units of `2 ^ (e - 2)`: half a gap on both sides, and a
quarter below a power of two, where the gap is half as wide. -/
def interval (m : Nat) (e : Int) : Interval where
  low := if m = 2 ^ (52 : Nat) ∧ -1074 < e then 4 * m - 1 else 4 * m - 2
  value := 4 * m
  high := 4 * m + 2
  closed := m % 2 = 0

/-- The interval with another unit. -/
def Interval.times (i : Interval) (u : Nat) : Interval :=
  { i with low := i.low * u, value := i.value * u, high := i.high * u }

/-- The decimal with the fewest digits that rounds to the double `m * 2 ^ e`. -/
def shortest (m : Nat) (e : Int) : Decimal :=
  if m = 0 then ⟨0, 0⟩
  else
    let e := e - 2
    let i := (interval m (e + 2)).times (if 0 ≤ e then 2 ^ e.toNat else 5 ^ (-e).toNat)
    let (c, g) := i.coarsest (Nat.toDigits 10 i.value).length
    strip ⟨c, g + min e 0⟩

/-! ## Rounding -/

/-- The number in units of `10 ^ (-places)`, rounded. A half goes to the even neighbour. -/
def roundTo (x : Decimal) (places : Nat) : Nat :=
  let e := x.exponent + places
  if 0 ≤ e then x.coefficient * 10 ^ e.toNat else Binary.roundDiv x.coefficient (10 ^ (-e).toNat)

/-- The number rounded to `count` digits. A half goes to the even neighbour. -/
def roundDigits (x : Decimal) (count : Nat) : Decimal :=
  let surplus : Int := x.digits.length - count
  if surplus ≤ 0 then ⟨x.coefficient * 10 ^ (-surplus).toNat, x.exponent + surplus⟩
  else
    let c := Binary.roundDiv x.coefficient (10 ^ surplus.toNat)
    if c = 10 ^ count then ⟨c / 10, x.exponent + surplus + 1⟩ else ⟨c, x.exponent + surplus⟩

end Decimal

end Dimensional.Number
