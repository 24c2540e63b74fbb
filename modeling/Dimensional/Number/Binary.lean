import Dimensional.Number.Power

/-!
# Doubles as numbers

A double is a signed whole multiple of a power of two, an infinity, or not a number. Reading the bits
gives the exact value. Writing takes any fraction and rounds it to the nearest double.
-/

namespace Dimensional.Number

open scoped Powers

/-- What a double stands for. -/
inductive Binary where
  | nan
  | infinite (negative : Bool)
  /-- The number `mantissa * 2 ^ exponent` with a sign. Zero has one, too. -/
  | finite (negative : Bool) (mantissa : Nat) (exponent : Int)
deriving DecidableEq

namespace Binary

/-! ## From bits -/

/-- The value of a pattern of 64 bits. -/
def ofBits (bits : Nat) : Binary :=
  let negative := bits / 2 ^ (63 : Nat) % 2 = 1
  let exponent : Nat := bits / 2 ^ (52 : Nat) % 2 ^ (11 : Nat)
  let fraction : Nat := bits % 2 ^ (52 : Nat)
  if exponent = 2 ^ (11 : Nat) - 1 then
    if fraction = 0 then infinite negative else nan
  else if exponent = 0 then
    finite negative fraction (-1074)
  else
    finite negative (2 ^ (52 : Nat) + fraction) (exponent - 1075)

/-- The value of a double. -/
def ofFloat (x : Float) : Binary :=
  ofBits x.toBits.toNat

/-! ## Rounding to the nearest double -/

/-- The whole number nearest to `n / d`. A half goes to the even neighbour. -/
def roundDiv (n d : Nat) : Nat :=
  let q := n / d
  let r := n % d
  if 2 * r < d then q
  else if d < 2 * r then q + 1
  else if q % 2 = 0 then q else q + 1

/-- The fraction `n / d` divided by `2 ^ e`, as numerator and denominator. -/
def unscale (n d : Nat) (e : Int) : Nat × Nat :=
  if 0 ≤ e then (n, d * 2 ^ e.toNat) else (n * 2 ^ (-e).toNat, d)

/-- The exponent of the doubles near `n / d`: there the mantissa has 53 bits, or the exponent is the
least one. -/
def exponentNear (n d : Nat) : Int :=
  let e : Int := n.log2 - d.log2 - 53
  let (n', d') := unscale n d e
  max (-1074) (if n' < d' * 2 ^ (53 : Nat) then e else e + 1)

/-- The bits of the double nearest to `n / d`, without sign. A tie goes to the even mantissa, and what
exceeds the doubles is infinite. -/
def nearestBits (n d : Nat) : Nat :=
  if n = 0 then 0
  else
    let e := exponentNear n d
    let (n', d') := unscale n d e
    let m := roundDiv n' d'
    min ((e + 1074).toNat * 2 ^ (52 : Nat) + m) (2047 * 2 ^ (52 : Nat))

/-- The double nearest to `n / d`, with a sign. -/
def nearest (negative : Bool) (n d : Nat) : Float :=
  .ofBits (.ofNat (nearestBits n d + if negative then 2 ^ (63 : Nat) else 0))

/-- The double with a value, rounded if it is not one. -/
def toFloat : Binary → Float
  | nan => .ofBits 0x7FF8000000000000
  | infinite negative => .ofBits (if negative then 0xFFF0000000000000 else 0x7FF0000000000000)
  | finite negative m e =>
    if 0 ≤ e then nearest negative (m * 2 ^ e.toNat) 1 else nearest negative m (2 ^ (-e).toNat)

end Binary

end Dimensional.Number
