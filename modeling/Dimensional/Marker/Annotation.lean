import Dimensional.Dimension.Basic
import Dimensional.Marker.Declaration
import Dimensional.Marker.Entry

/-!
# Annotations

The dimension attribute of a declaration annotates the marker with its exponents and perhaps with a
symbol. Of several entries with one key the last counts, and of several such attributes the first.
-/

namespace Dimensional.Marker

/-- What the dimension attribute says about a marker. -/
structure Annotation where
  /-- The exponents as written, zero where none is. -/
  dimension : Dimension := .dimensionless
  /-- The symbol, if one is written. -/
  symbol : Option Literal := none
deriving DecidableEq

namespace Annotation

/-- The annotation with one more entry, which replaces an earlier one with its key. -/
def set (a : Annotation) : Entry → Annotation
  | .exponent b e => { a with dimension := .ofFn fun c => if c = b then e else a.dimension.exponent c }
  | .symbol l => { a with symbol := some l }

/-- The annotation that some entries make. -/
def ofEntries (entries : List Entry) : Annotation :=
  entries.foldl set {}

/-- The annotation that the tokens of an attribute write. -/
def ofTokens (tokens : List Token) : Except MarkerError Annotation :=
  (takeEntries tokens).map ofEntries

end Annotation

/-! ## Finding the attribute -/

/-- The attribute tells the dimension: its path is the one name `dimension`. -/
def Attribute.isDimension (a : Attribute) : Bool :=
  !a.rooted && a.path = [{ text := "dimension" }]

/-- The tokens of an attribute's arguments. -/
def Attribute.arguments (a : Attribute) : Except MarkerError (List Token) :=
  match a.content with
  | .empty => .error .noArguments
  | .value => .error .valueForArguments
  | .arguments tokens => .ok tokens

/-- The annotation of the first attribute that tells the dimension. -/
def Declaration.annotation (d : Declaration) : Except MarkerError Annotation :=
  match d.attributes.find? Attribute.isDimension with
  | none => .error .missing
  | some a => a.arguments.bind Annotation.ofTokens

end Dimensional.Marker
