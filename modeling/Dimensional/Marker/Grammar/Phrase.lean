import Dimensional.Marker.Grammar.Operator

/-!
# Phrases

Types, expressions, patterns and items contain each other. The grammar of each is given one level deep,
over a scan for the phrases inside it. Nothing is kept of a phrase but the little that decides how it may
go on.
-/

namespace Dimensional.Marker

/-- What a bound may start with at its place. -/
structure BoundRule where
  /-- A list of what the type captures. -/
  captures : Bool
  /-- A word that limits the bound to constants. -/
  constant : Bool
deriving DecidableEq

/-- The phrases of the grammar that contain each other. -/
inductive Phrase where
  /-- A type, perhaps with further bounds behind a plus. -/
  | type (plus : Bool)
  /-- A trait or a lifetime that bounds a type. -/
  | bound (rule : BoundRule)
  /-- Fields with names, in braces. -/
  | fields
  /-- An expression. Where it has to end at braces, it holds no structure. -/
  | expression (structs : Bool)
  /-- An expression without operators between others. -/
  | operand (structs : Bool)
  /-- An expression that goes on behind its block only by a step into its value. -/
  | bounded
  /-- The right side of an operator that binds this tightly. -/
  | rightSide (structs : Bool) (p : Precedence)
  /-- A pattern without alternatives. -/
  | pattern
  /-- The statements of a block. -/
  | statements
  /-- An item behind its attributes. -/
  | item
  /-- The names that an item makes known, perhaps from the root of all names. -/
  | imports (rooted : Bool)
deriving DecidableEq

/-! ## Shapes -/

/-- What a type is, as far as it decides what may follow. -/
inductive TypeShape where
  /-- A path, and whether it has one name only. -/
  | path (isSingle : Bool)
  /-- One trait with lifetimes that it holds for, or one that is relaxed. -/
  | loneBound
  | other
deriving DecidableEq

/-- What bounds a type. -/
inductive BoundShape where
  | trait
  | lifetime
  | captures
deriving DecidableEq

/-- What an expression is, as far as it decides what may follow. -/
inductive ExpressionShape where
  /-- An expression that ends with its block. -/
  | block
  /-- A call of a macro with its arguments in braces. -/
  | bracedCall
  | range
  | comparison
  | other
deriving DecidableEq

/-- What a pattern is, as far as it decides what may follow. -/
inductive PatternShape where
  /-- Two dots that stand for any further values. -/
  | rest
  /-- A range without a start or without an end. -/
  | openRange
  | other
deriving DecidableEq

/-- What is kept of a phrase. -/
@[reducible] def Phrase.Shape : Phrase → Type
  | .type _ => TypeShape
  | .bound _ => BoundShape
  | .expression _ => ExpressionShape
  | .operand _ => ExpressionShape
  | .bounded => ExpressionShape
  | .rightSide .. => ExpressionShape
  | .pattern => PatternShape
  | .fields => Unit
  | .statements => Unit
  | .item => Unit
  | .imports _ => Unit

/-- A scan for each phrase. -/
abbrev PhraseScan := (p : Phrase) → Scan p.Shape

namespace PhraseScan

variable (scan : PhraseScan)

/-- A phrase of which nothing is kept. -/
def skip (p : Phrase) : Scan Unit := do
  let _ ← scan p

/-- A type, perhaps with further bounds. -/
def skipType : Scan Unit :=
  skip scan (.type true)

/-- An expression that may hold structures. -/
def skipExpression : Scan Unit :=
  skip scan (.expression true)

end PhraseScan

end Dimensional.Marker
