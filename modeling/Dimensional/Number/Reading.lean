import Dimensional.Number.Decimal

/-!
# Reading numbers

A number is written with an optional sign, digits with an optional point among them, and an optional
power of ten. An infinity and what is not a number have names, in any case.
-/

namespace Dimensional.Number

open scoped Powers

/-- The sign at the front of a text, and the rest. -/
def takeSign : List Char → Bool × List Char
  | '-' :: rest => (true, rest)
  | '+' :: rest => (false, rest)
  | cs => (false, cs)

/-- The names of an infinity. -/
def infinityNames : List String := ["inf", "infinity"]

/-- The power of ten at the end of a number. Nothing stands for the power zero. -/
def readPower : List Char → Option Int
  | [] => some 0
  | c :: rest =>
    if c = 'e' ∨ c = 'E' then
      let (negative, digits) := takeSign rest
      if !digits.isEmpty && digits.all Char.isDigit then
        let n : Int := Nat.ofDigitChars 10 digits 0
        some (if negative then -n else n)
      else none
    else none

/-- A number without sign, as the decimal that it writes. -/
def readDecimal (cs : List Char) : Option Decimal :=
  let whole := cs.takeWhile Char.isDigit
  let rest := cs.dropWhile Char.isDigit
  let (fraction, rest) :=
    match rest with
    | '.' :: rest => (rest.takeWhile Char.isDigit, rest.dropWhile Char.isDigit)
    | rest => ([], rest)
  if whole.isEmpty && fraction.isEmpty then none
  else
    (readPower rest).map fun power =>
      ⟨Nat.ofDigitChars 10 (whole ++ fraction) 0, power - fraction.length⟩

/-- The double nearest to a decimal. A decimal with its first digit far outside the range of doubles is
settled by the place of that digit. -/
def Decimal.toFloat (negative : Bool) (x : Decimal) : Float :=
  let top : Int := x.exponent + x.digits.length
  if x.coefficient = 0 ∨ top < -400 then (Binary.finite negative 0 0).toFloat
  else if 400 < top then (Binary.infinite negative).toFloat
  else if 0 ≤ x.exponent then Binary.nearest negative (x.coefficient * 10 ^ x.exponent.toNat) 1
  else Binary.nearest negative x.coefficient (10 ^ (-x.exponent).toNat)

/-- The number that a text writes. -/
def read? (cs : List Char) : Option Float :=
  let (negative, body) := takeSign cs
  let name := String.ofList (body.map Char.toLower)
  if name ∈ infinityNames then some (Binary.infinite negative).toFloat
  else if name = "nan" then some Binary.nan.toFloat
  else (readDecimal body).map (Decimal.toFloat negative)

end Dimensional.Number
