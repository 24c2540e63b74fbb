import Mathlib.Data.List.Basic
import Dimensional.Marker.Implementation

/-!
# Reading an implementation

The tokens of an implementation are code for somebody else to evaluate. A reader that knows nothing of
where they come from finds the numbers of the exponents and the symbol in them.
-/

namespace Dimensional.Marker.Implementation

open Exponent (numbers)

/-- What the code of an implementation says. -/
structure Code where
  marker : Name
  ratios : List (Int × Int)
  symbol : Option Literal
deriving DecidableEq

/-! ## The reader -/

/-- The tokens behind some names and marks, if these stand at the front. -/
def skip? : List Token → List Token → Option (List Token)
  | [], tokens => some tokens
  | .name n :: expected, .name m :: rest => if n = m then skip? expected rest else none
  | .mark c joint :: expected, .mark d joint' :: rest =>
    if c = d ∧ joint = joint' then skip? expected rest else none
  | _, _ => none

/-- The number at the front of some tokens, and the rest. -/
def readNumber? : List Token → Option (Int × List Token)
  | .mark '-' _ :: .literal l :: rest =>
    match l.value with
    | .integer n _ => some (-n, rest)
    | _ => none
  | .literal l :: rest =>
    match l.value with
    | .integer n _ => some (n, rest)
    | _ => none
  | _ => none

/-- The two numbers between the parentheses of a call. -/
def readPair? (tokens : List Token) : Option (Int × Int) := do
  let (n, rest) ← readNumber? tokens
  match ← readNumber? (← skip? [.mark ',' false] rest) with
  | (d, []) => return (n, d)
  | _ => none

/-- The numbers of up to `count` calls for an exponent, with commas between them. -/
def readRatios? : Nat → List Token → Option (List (Int × Int))
  | 0, _ => none
  | count + 1, tokens => do
    match ← skip? (path ["crate", "Ratio", "new"]) tokens with
    | [.group .parenthesis pair] => return [← readPair? pair]
    | .group .parenthesis pair :: .mark ',' _ :: rest =>
      return (← readPair? pair) :: (← readRatios? count rest)
    | _ => none

/-- What stands before the exponents of a vector. -/
def vectorHead : List Token :=
  [.word "const", .word "VECTOR", .mark ':' false] ++ path ["crate", "DimensionVector"] ++
    [.mark '=' false] ++ path ["crate", "DimensionVector", "new"]

/-- What stands before a symbol. -/
def symbolHead : List Token :=
  [.word "const", .word "SYMBOL", .mark ':' false] ++ optional [] ++
    [.mark '<' false, .mark '&' false, .mark '\'' true, .word "static", .word "str", .mark '>' false,
      .mark '=' false] ++ optional ["Some"]

/-- The exponents at the front of some tokens, and the rest. -/
def readVector? (tokens : List Token) : Option (List (Int × Int) × List Token) := do
  match ← skip? vectorHead tokens with
  | .group .parenthesis [.group .bracket ratios] :: .mark ';' _ :: rest =>
    return (← readRatios? BaseDimension.all.length ratios, rest)
  | _ => none

/-- The symbol that some tokens tell, if there are any. -/
def readSymbol? (tokens : List Token) : Option (Option Literal) := do
  if tokens.isEmpty then return none
  match ← skip? symbolHead tokens with
  | [.group .parenthesis [.literal l], .mark ';' _] => return some l
  | _ => none

/-- What the code of an implementation says. -/
def read? (tokens : List Token) : Option Code := do
  match ← skip? ([.word "impl"] ++ path ["crate", "Dimension"] ++ [.word "for"]) tokens with
  | [.name marker, .group .brace content] =>
    let (ratios, rest) ← readVector? content
    return { marker, ratios, symbol := ← readSymbol? rest }
  | _ => none

/-! ## Reading what is written -/

/-- A name or a mark. -/
def isPlain : Token → Bool
  | .name _ => true
  | .mark .. => true
  | _ => false

theorem skip?_append {expected : List Token} (h : expected.all isPlain) (rest : List Token) :
    skip? expected (expected ++ rest) = some rest := by
  induction expected with
  | nil => rfl
  | cons t expected ih =>
    rw [List.all_cons, Bool.and_eq_true] at h
    cases t with
    | name n => simp [skip?, ih h.2]
    | mark c joint => simp [skip?, ih h.2]
    | literal l => exact absurd h.1 (by simp [isPlain])
    | group d content => exact absurd h.1 (by simp [isPlain])

theorem readNumber?_number (n : Int) (rest : List Token) :
    readNumber? (number n ++ rest) = some (n, rest) := by
  unfold number
  split
  next h =>
    change some (-(n.natAbs : Int), rest) = some (n, rest)
    rw [Int.ofNat_natAbs_of_nonpos (Int.le_of_lt h), Int.neg_neg]
  next h =>
    change some ((n.natAbs : Int), rest) = some (n, rest)
    rw [Int.natAbs_of_nonneg (Int.not_lt.mp h)]

theorem readPair?_numbers (n d : Int) :
    readPair? (number n ++ .mark ',' false :: number d) = some (n, d) := by
  have hd := readNumber?_number d []
  rw [List.append_nil] at hd
  rw [readPair?, readNumber?_number]
  simp [skip?, hd]

theorem readRatios?_intercalate (v : Dimension) {bs : List BaseDimension} {count : Nat} (hne : bs ≠ [])
    (hcount : bs.length ≤ count) :
    readRatios? count ([Token.mark ',' false].intercalate (bs.map fun b => ratio (v.exponent b))) =
      some (bs.map fun b => numbers (v.exponent b)) := by
  induction count generalizing bs with
  | zero => exact absurd (List.length_eq_zero_iff.mp (Nat.le_zero.mp hcount)) hne
  | succ count ih =>
    have hskip (rest : List Token) :
        skip? (path ["crate", "Ratio", "new"]) (path ["crate", "Ratio", "new"] ++ rest) = some rest :=
      skip?_append rfl rest
    match bs with
    | [b] =>
      rw [List.map_singleton, List.intercalate_singleton, readRatios?, ratio, hskip]
      simp [readPair?_numbers, numbers]
    | b :: c :: bs =>
      have ih := ih (List.cons_ne_nil c bs) (Nat.le_of_succ_le_succ hcount)
      rw [List.map_cons] at ih
      rw [List.map_cons, List.map_cons, List.intercalate_cons_cons, readRatios?, ratio,
        List.append_assoc, List.append_assoc, hskip]
      simp [readPair?_numbers, numbers, ih]

theorem readVector?_vector (v : Dimension) (rest : List Token) :
    readVector? (vector v ++ rest) =
      some (BaseDimension.all.map fun b => numbers (v.exponent b), rest) := by
  have hne : BaseDimension.all ≠ [] := List.cons_ne_nil _ _
  have hratios := readRatios?_intercalate v hne (Nat.le_refl _)
  have htokens : vector v ++ rest = vectorHead ++
      (.group .parenthesis [.group .bracket
        ([Token.mark ',' false].intercalate (BaseDimension.all.map fun b => ratio (v.exponent b)))] ::
          .mark ';' false :: rest) := by
    simp [vector, vectorHead]
  rw [htokens, readVector?, skip?_append rfl]
  simp [hratios]

theorem readSymbol?_symbol (l : Option Literal) :
    readSymbol? ((l.map symbol).getD []) = some l := by
  cases l with
  | none => rfl
  | some l =>
    have htokens : symbol l = symbolHead ++ [.group .parenthesis [.literal l], .mark ';' false] := by
      simp [symbol, symbolHead]
    rw [Option.map_some, Option.getD_some, htokens, readSymbol?, skip?_append rfl]
    simp

theorem read?_tokens (i : Implementation) :
    read? i.tokens = some {
      marker := i.marker
      ratios := BaseDimension.all.map fun b => numbers (i.annotation.dimension.exponent b)
      symbol := i.annotation.symbol } := by
  have htokens : i.tokens = [.word "impl"] ++ path ["crate", "Dimension"] ++ [.word "for"] ++
      [.name i.marker, .group .brace
        (vector i.annotation.dimension ++ (i.annotation.symbol.map symbol).getD [])] := by
    simp [tokens]
  rw [htokens, read?, skip?_append rfl]
  simp [readVector?_vector, readSymbol?_symbol]

end Dimensional.Marker.Implementation
