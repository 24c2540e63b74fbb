import Dimensional.Dimension.Expr

/-!
# Reading dimension expressions

A dimension expression is written with the names of its constructors, `Quot<Energy,Length>`, over names
that a table explains.
-/

namespace Dimensional.DimensionExpr

/-- A whole number with an optional minus at the front of a text, and the rest. -/
def readInt (cs : List Char) : Option (Int × List Char) :=
  let (negative, cs) :=
    match cs with
    | '-' :: rest => (true, rest)
    | cs => (false, cs)
  let digits := cs.takeWhile Char.isDigit
  if digits.isEmpty then none
  else
    let n : Int := Nat.ofDigitChars 10 digits 0
    some (if negative then -n else n, cs.dropWhile Char.isDigit)

/-- The rest of a text behind one expected character. -/
def skip (c : Char) : List Char → Option (List Char)
  | d :: rest => if c = d then some rest else none
  | [] => none

/-- The expression at the front of a text, and the rest. The depth bounds the nesting. -/
def readFrom (table : String → Option DimensionExpr) :
    Nat → List Char → Option (DimensionExpr × List Char)
  | 0, _ => none
  | depth + 1, cs => do
    let name := String.ofList (cs.takeWhile Char.isAlphanum)
    let rest := cs.dropWhile Char.isAlphanum
    match skip '<' rest with
    | none => return (← table name, rest)
    | some rest =>
      let (a, rest) ← readFrom table depth rest
      match name with
      | "Recip" => return (recip a, ← skip '>' rest)
      | "Sqrt" => return (sqrt a, ← skip '>' rest)
      | "Pow" =>
        let (k, rest) ← readInt (← skip ',' rest)
        return (pow a k, ← skip '>' rest)
      | "Prod" =>
        let (b, rest) ← readFrom table depth (← skip ',' rest)
        return (prod a b, ← skip '>' rest)
      | "Quot" =>
        let (b, rest) ← readFrom table depth (← skip ',' rest)
        return (quot a b, ← skip '>' rest)
      | _ => none

/-- The expression that a whole text writes. -/
def read? (table : String → Option DimensionExpr) (text : String) : Option DimensionExpr :=
  match readFrom table (text.length + 1) text.toList with
  | some (d, []) => some d
  | _ => none

end Dimensional.DimensionExpr
