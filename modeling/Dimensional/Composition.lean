import Dimensional.Dimension.Basic
import Dimensional.Rendering

/-!
# Unit names composed from base units

A dimension without a name of its own is written in base units, in one of two forms. The fraction form
puts the positive exponents first and the magnitudes of the negative ones behind a slash: `kg/m s^2`.
The exponent form writes every slot that is not zero with its signed exponent: `m^-1 kg s^-2`.
-/

namespace Dimensional.Composition

/-- The power after a base symbol in the fraction form. An exponent of one is left out, and a
fractional exponent stands in parentheses. -/
def power (e : Exponent) : Rendering Fault :=
  if e.IsOne then .empty
  else if e.den = 1 then { pieces := ["^", toString e.num] }
  else { pieces := ["^(", toString e.num, "/", toString e.den, ")"] }

/-- A base unit with the magnitude of its exponent. The magnitude is taken before anything is
written. -/
def term (b : BaseDimension) (e : Exponent) : Rendering Fault :=
  match e.abs with
  | .error f => .stop f
  | .ok e => .piece b.symbol ++ power e.reduce

/-- The base units whose exponents are picked, separated by spaces. -/
def terms (v : Dimension) (pick : Exponent → Bool) : Rendering Fault :=
  .intercalate " "
    ((BaseDimension.all.filter fun b => pick (v.exponent b)).map fun b => term b (v.exponent b))

/-- The fraction form. -/
def fraction (v : Dimension) : Rendering Fault :=
  let positive := BaseDimension.all.any fun b => (v.exponent b).IsPositive
  let negative := BaseDimension.all.any fun b => (v.exponent b).IsNegative
  let numerator :=
    if positive then terms v (decide ·.IsPositive)
    else if negative then .piece "1"
    else .empty
  if negative then numerator ++ (.piece "/" ++ terms v (decide ·.IsNegative)) else numerator

/-- A base unit with its exponent in the exponent form. An exponent of one is left out. -/
def signedTerm (b : BaseDimension) (e : Exponent) : String :=
  if e.IsOne then b.symbol
  else if e.den = 1 then b.symbol ++ "^" ++ toString e.num
  else b.symbol ++ "^" ++ toString e.num ++ "/" ++ toString e.den

/-- The exponent form. -/
def exponents (v : Dimension) : String :=
  let slots := BaseDimension.all.filter fun b => ¬ (v.exponent b).IsZero
  " ".intercalate (slots.map fun b => signedTerm b (v.exponent b).reduce)

end Dimensional.Composition
