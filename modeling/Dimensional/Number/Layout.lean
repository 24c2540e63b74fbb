import Dimensional.Number.Decimal

/-!
# The text of numbers

A number is shown by its shortest digits or with a fixed count of decimal places, padded to a width.
Plain text never uses an exponent. Technical text always shows a decimal place and uses an exponent
for very small and very large numbers.
-/

namespace Dimensional.Number

/-- The side of the field on which a text stands. -/
inductive Alignment where
  | left
  | center
  | right
deriving DecidableEq

/-- How a number is written. -/
structure Format where
  /-- The least number of characters. -/
  width : Nat := 0
  /-- The count of decimal places, if it is fixed. -/
  places : Option Nat := none
  /-- Positive numbers get a sign, too. -/
  plus : Bool := false
  /-- Zeros after the sign fill the field. They override the fill and the alignment. -/
  zeros : Bool := false
  alignment : Alignment := .right
  fill : Char := ' '
deriving DecidableEq

/-! ## Digits -/

/-- A number in full: the digits before the point, and those behind it if there are any. -/
def positional (x : Decimal) : List Char :=
  if 0 ≤ x.exponent then x.digits ++ List.replicate x.exponent.toNat '0'
  else
    let places := (-x.exponent).toNat
    let digits := List.replicate (places + 1 - x.digits.length) '0' ++ x.digits
    digits.take (digits.length - places) ++ '.' :: digits.drop (digits.length - places)

/-- A number of whole units of `10 ^ (-places)` in full. -/
def fixed (units places : Nat) : List Char :=
  positional ⟨units, -places⟩

/-- A number with one digit before the point and a power of ten. -/
def scientific (x : Decimal) : List Char :=
  let power : Int := x.exponent + x.digits.length - 1
  let mantissa :=
    match x.digits with
    | d :: e :: rest => d :: '.' :: e :: rest
    | digits => digits
  mantissa ++ 'e' :: (toString power).toList

/-- The magnitude `m * 2 ^ e` in plain text: all its shortest digits, or the fixed decimal places. -/
def plain (places : Option Nat) (m : Nat) (e : Int) : List Char :=
  match places with
  | none => positional (.shortest m e)
  | some places => fixed ((Decimal.exact m e).roundTo places) places

/-- The magnitude `m * 2 ^ e` in technical text. From `10 ^ 16` on, and below `10 ^ (-4)` except for
zero, it has an exponent. -/
def technical (places : Option Nat) (m : Nat) (e : Int) : List Char :=
  match places with
  | some _ => plain places m e
  | none =>
    let x := Decimal.shortest m e
    let power : Int := x.exponent + x.digits.length - 1
    if x.coefficient ≠ 0 ∧ (power < -4 ∨ 16 ≤ power) then scientific x
    else if 0 ≤ x.exponent then positional x ++ ['.', '0']
    else positional x

/-- The magnitude `m * 2 ^ e` with a power of ten and a fixed count of decimal places before it. -/
def scientificPlaces (places m : Nat) (e : Int) : List Char :=
  if m = 0 then fixed 0 places ++ ['e', '0'] else scientific ((Decimal.exact m e).roundDigits (places + 1))

/-! ## Signs and padding -/

/-- The sign that is shown. -/
def sign (plus negative : Bool) : List Char :=
  if negative then ['-'] else if plus then ['+'] else []

/-- A text in a field of a least width. -/
def pad (f : Format) (cs : List Char) : List Char :=
  let room := f.width - cs.length
  let before :=
    match f.alignment with
    | .left => 0
    | .center => room / 2
    | .right => room
  List.replicate before f.fill ++ cs ++ List.replicate (room - before) f.fill

/-- A sign and a body in a field. -/
def layOut (f : Format) (sign body : List Char) : List Char :=
  if f.zeros then sign ++ List.replicate (f.width - sign.length - body.length) '0' ++ body
  else pad f (sign ++ body)

/-- The number in a format, with its finite magnitudes written by `magnitude`. -/
def layOutNumber (f : Format) (magnitude : Nat → Int → List Char) : Binary → List Char
  | .nan => layOut f [] "NaN".toList
  | .infinite negative => layOut f (sign f.plus negative) "inf".toList
  | .finite negative m e => layOut f (sign f.plus negative) (magnitude m e)

/-! ## Whole texts -/

/-- The plain text of a number. -/
def text (f : Format) (x : Float) : String :=
  String.ofList (layOutNumber f (plain f.places) (.ofFloat x))

/-- The technical text of a number. -/
def technicalText (places : Option Nat) (x : Float) : String :=
  String.ofList (layOutNumber {} (technical places) (.ofFloat x))

/-- The text of a number with a power of ten. -/
def scientificText (places : Nat) (x : Float) : String :=
  String.ofList (layOutNumber {} (scientificPlaces places) (.ofFloat x))

end Dimensional.Number
