import Dimensional.Number.Binary

/-! # Arithmetic on doubles beyond the basic operations -/

namespace Dimensional.Number

open scoped Powers

/-- The magnitudes `m * 2 ^ e` and `n * 2 ^ f` as multiples of the lesser power, with its exponent. -/
def commonExponent (m : Nat) (e : Int) (n : Nat) (f : Int) : Nat × Nat × Int :=
  if e ≤ f then (m, n * 2 ^ (f - e).toNat, e) else (m * 2 ^ (e - f).toNat, n, f)

/-- The remainder of the division that rounds toward zero. It is exact and has the sign of `x`. -/
def remainder (x y : Float) : Float :=
  match Binary.ofFloat x, Binary.ofFloat y with
  | .finite negative m e, .finite _ n f =>
    if n = 0 then Binary.nan.toFloat
    else
      let (m, n, e) := commonExponent m e n f
      (Binary.finite negative (m % n) e).toFloat
  | .finite .., .infinite _ => x
  | _, _ => Binary.nan.toFloat

/-- The smaller number. What is not a number gives way, and of equal numbers the first is taken. -/
def lesser (x y : Float) : Float :=
  if x.isNaN then y else if y < x then y else x

/-- The larger number. What is not a number gives way, and of equal numbers the first is taken. -/
def greater (x y : Float) : Float :=
  if x.isNaN then y else if x < y then y else x

end Dimensional.Number
