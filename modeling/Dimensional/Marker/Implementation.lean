import Dimensional.Marker.Annotation

/-!
# Implementations

A declared marker is given its dimension by an implementation: a vector with one ratio for each base
dimension, in slot order and as written, and the symbol if there is one.
-/

namespace Dimensional.Marker

/-- The implementation that gives a marker its dimension. -/
structure Implementation where
  marker : Name
  annotation : Annotation
deriving DecidableEq

namespace Implementation

/-- Names with two colons between them. -/
def path : List String → List Token
  | [] => []
  | [n] => [.word n]
  | n :: rest => .word n :: Token.marks "::" ++ path rest

/-- A whole number with the name of its type. A minus stands before it as a mark. -/
def number (n : Int) : List Token :=
  let literal : Token := .literal { written := toString n.natAbs ++ "i32", value := .integer n.natAbs true }
  if n < 0 then [.mark '-' false, literal] else [literal]

/-- The call that builds an exponent from its numerator and denominator. -/
def ratio (e : Exponent) : List Token :=
  path ["crate", "Ratio", "new"] ++
    [.group .parenthesis (number e.num ++ [.mark ',' false] ++ number e.den)]

/-- The constant with the exponents of a dimension. -/
def vector (v : Dimension) : List Token :=
  [.word "const", .word "VECTOR", .mark ':' false] ++ path ["crate", "DimensionVector"] ++
    [.mark '=' false] ++ path ["crate", "DimensionVector", "new"] ++
    [.group .parenthesis [.group .bracket
      ([Token.mark ',' false].intercalate (BaseDimension.all.map fun b => ratio (v.exponent b)))],
    .mark ';' false]

/-- The type of a value that may be absent, and its constructor, by their full path. -/
def optional (rest : List String) : List Token :=
  Token.marks "::" ++ path (["core", "option", "Option"] ++ rest)

/-- The constant with a symbol. -/
def symbol (l : Literal) : List Token :=
  [.word "const", .word "SYMBOL", .mark ':' false] ++ optional [] ++
    [.mark '<' false, .mark '&' false, .mark '\'' true, .word "static", .word "str", .mark '>' false,
      .mark '=' false] ++
    optional ["Some"] ++ [.group .parenthesis [.literal l], .mark ';' false]

/-- The tokens of an implementation. -/
def tokens (i : Implementation) : List Token :=
  [.word "impl"] ++ path ["crate", "Dimension"] ++ [.word "for", .name i.marker,
    .group .brace (vector i.annotation.dimension ++ (i.annotation.symbol.map symbol).getD [])]

/-- The text of an implementation. -/
def text (i : Implementation) : String :=
  Token.writtenAll i.tokens

/-- The implementation for a declaration. -/
def ofDeclaration (d : Declaration) : Except MarkerError Implementation :=
  d.annotation.map fun annotation => { marker := d.name, annotation }

/-- The implementation for the declaration that a text writes. -/
def ofText (text : String) : Except MarkerError Implementation :=
  match Declaration.read text with
  | .ok d => ofDeclaration d
  | .error c => .error (.declaration c)

end Implementation

end Dimensional.Marker
