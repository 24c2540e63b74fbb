import Dimensional.Composition
import Dimensional.Description
import Dimensional.Registry

/-!
# Unit names

The unit of a dimension is shown by a symbol, if there is one, and else composed from base units.
-/

namespace Dimensional

/-- The name of a unit. -/
inductive UnitName where
  /-- A symbol of the registry or of a named dimension. -/
  | registered (symbol : String)
  /-- Base units in the powers of a dimension. -/
  | composed (v : Dimension)

namespace UnitName

/-- The unit name of a dimension, from the registry if it is there. -/
def forDimension (v : Dimension) : UnitName :=
  match Registry.lookup v with
  | some symbol => registered symbol
  | none => composed v

/-- Two names are one name if their symbols agree, or if the dimensions that compose them match. -/
def Same : UnitName → UnitName → Prop
  | registered s, registered t => s = t
  | composed v, composed w => v.Matches w
  | _, _ => False

instance : DecidableRel Same
  | registered s, registered t => inferInstanceAs (Decidable (s = t))
  | composed v, composed w => inferInstanceAs (Decidable (v.Matches w))
  | registered _, composed _ => inferInstanceAs (Decidable False)
  | composed _, registered _ => inferInstanceAs (Decidable False)

/-- What identifies a name up to the stored form of its exponents, for hashing. -/
def key : UnitName → String ⊕ List Int
  | registered symbol => .inl symbol
  | composed v => .inr v.key

/-- Nothing is shown for the name. -/
def IsEmpty : UnitName → Prop
  | registered symbol => symbol.isEmpty
  | composed v => v.IsDimensionless

instance : DecidablePred IsEmpty
  | registered symbol => inferInstanceAs (Decidable (symbol.isEmpty = true))
  | composed v => inferInstanceAs (Decidable v.IsDimensionless)

/-! ## Text -/

/-- The name as it is written: the symbol, or the fraction form. -/
def rendering : UnitName → Rendering Fault
  | registered symbol => .piece symbol
  | composed v => Composition.fraction v

/-- The default text. -/
def text (n : UnitName) : Except Fault String :=
  n.rendering.text

/-- The alternate text: the symbol, or the exponent form. -/
def alternate : UnitName → String
  | registered symbol => symbol
  | composed v => Composition.exponents v

/-- Whether the default text is `t`, found without writing it out. -/
def matchesText (n : UnitName) (t : String) : Except Fault Bool :=
  n.rendering.matchesText t

/-- The composition of a dimension in words. -/
def describeComposition (v : Dimension) : Description :=
  .wrapped "Composition" (.plain v.describe)

/-- The name in words. -/
def describe : UnitName → Description
  | registered symbol => .wrapped "Registered" (.plain (Text.quote symbol))
  | composed v => .wrapped "Composed" (describeComposition v)

end UnitName

/-! ## Written dimensions -/

namespace DimensionExpr

/-- The symbol of the unit: the marker's own, or the registered one. -/
def symbol (d : DimensionExpr) : Except Fault (Option String) :=
  match d with
  | marker _ (some s) => .ok (some s)
  | d => d.dimension.map Registry.lookup

/-- The unit name. A symbol comes before a composition. -/
def unitName (d : DimensionExpr) : Except Fault UnitName := do
  match ← d.symbol with
  | some s => return .registered s
  | none => return .composed (← d.dimension)

end DimensionExpr

end Dimensional
