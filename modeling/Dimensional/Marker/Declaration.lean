import Dimensional.Marker.Grammar

/-!
# Declarations

A marker is declared as a type: a structure, an enumeration or a union, with attributes before it. Of
the declaration only the name and the attributes are kept, but all of it has to be well formed.
-/

namespace Dimensional.Marker

/-- What a declaration says about the marker. -/
structure Declaration where
  name : Name
  attributes : List Attribute

namespace Declaration

/-- A declaration. -/
def declaration : Scan Declaration := do
  let attributes ← PhraseScan.attributes phrase
  skipVisibility
  let kind ← expectDataKind
  return { name := ← PhraseScan.declared phrase kind, attributes }

/-- The declaration that a text writes. -/
def read (text : String) : Except Complaint Declaration := do
  scanAll declaration (← tokensOf text)

end Declaration

end Dimensional.Marker
