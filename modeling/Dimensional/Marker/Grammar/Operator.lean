import Dimensional.Marker.Scan

/-!
# Operators

Operators between two expressions, ordered by how tightly they bind.
-/

namespace Dimensional.Marker

/-- How tightly an operator binds, from loose to tight. -/
inductive Precedence where
  /-- No operator. -/
  | none
  | assignment
  | range
  | or
  | and
  | comparison
  | bitOr
  | bitXor
  | bitAnd
  | shift
  | sum
  | product
  /-- A change of type. -/
  | cast
deriving DecidableEq

/-- The place of a precedence in their order. -/
def Precedence.rank : Precedence → Nat
  | none => 0
  | assignment => 1
  | range => 2
  | or => 3
  | and => 4
  | comparison => 5
  | bitOr => 6
  | bitXor => 7
  | bitAnd => 8
  | shift => 9
  | sum => 10
  | product => 11
  | cast => 12

/-- The operators that have a value on both sides, a longer one before each that it starts with. -/
def operators : List (String × Precedence) :=
  [("+=", .assignment), ("-=", .assignment), ("*=", .assignment), ("/=", .assignment),
    ("%=", .assignment), ("^=", .assignment), ("&=", .assignment), ("|=", .assignment),
    ("<<=", .assignment), (">>=", .assignment), ("&&", .and), ("||", .or), ("<<", .shift),
    (">>", .shift), ("==", .comparison), ("<=", .comparison), ("!=", .comparison),
    (">=", .comparison), ("+", .sum), ("-", .sum), ("*", .product), ("/", .product),
    ("%", .product), ("^", .bitXor), ("&", .bitAnd), ("|", .bitOr), ("<", .comparison),
    (">", .comparison)]

/-- The operator at the front of the tokens. -/
def operator? (tokens : List Token) : Option (String × Precedence) :=
  operators.find? fun (marks, _) => startsMarks marks tokens

/-- An equals sign that assigns stands at the front. -/
def startsAssignment (tokens : List Token) : Bool :=
  startsMarksBut ["=>"] "=" tokens

/-- How tightly the operator at the front of the tokens binds. -/
def precedenceAhead (tokens : List Token) : Precedence :=
  match operator? tokens with
  | some (_, p) => p
  | none =>
    if startsAssignment tokens then .assignment
    else if startsMarks ".." tokens then .range
    else if startsWord "as" tokens then .cast
    else .none

/-! ## Ranges -/

/-- Takes the dots of a range, and tells whether its end belongs to it. -/
def rangeDots : Scan Bool := do
  if ← acceptMarks "..=" then return true
  else if ← peek (startsMarks "...") then refuse ["`..=`"]
  else
    expectMarks ".."
    return false

/-- Takes the dots of a range in a pattern. Three of them are an older way to include the end. -/
def patternDots : Scan Bool := do
  if ← acceptMarks "..=" then return true
  else if ← acceptMarks "..." then return true
  else
    expectMarks ".."
    return false

/-- A range that need not have an end has none before these tokens. -/
def endsRange (structs : Bool) (tokens : List Token) : Bool :=
  tokens.isEmpty || startsMarksBut [".."] "." tokens || startsWord "as" tokens ||
    !structs && startsGroup .brace tokens ||
    [",", ";", "?", "=>", "=", "+", "/", "%", "^", ">", "<=", "!=", "-=", "*=", "&=", "|=", "<<="].any
      (startsMarks · tokens)

end Dimensional.Marker
