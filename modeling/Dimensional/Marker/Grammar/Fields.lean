import Dimensional.Marker.Grammar.Statement

/-!
# Fields

A structure, an enumeration or a union is declared by its fields, with names in braces or without names
in parentheses.
-/

namespace Dimensional.Marker

/-- Parentheses that restrict who sees a declaration to one known module stand at the front. -/
def startsKnownScope : List Token → Bool
  | .group .parenthesis [t] :: _ => startsAnyWord ["crate", "self", "super"] [t]
  | _ => false

/-- Parentheses that restrict who sees a declaration to the module at a path stand at the front. -/
def startsScope : List Token → Bool
  | .group .parenthesis content :: _ => startsWord "in" content
  | _ => false

/-- Who sees a declaration, if it is said, and whether it is. Parentheses that say nothing of it are left
for a type. -/
def visibility : Scan Bool := do
  if ← acceptWord "pub" then
    if ← peek startsKnownScope then skipToken
    else if ← peek startsScope then
      within .parenthesis do
        skipToken
        let _ ← expectPlainPath
    return true
  else return false

/-- Who sees a declaration, of which nothing is kept. -/
def skipVisibility : Scan Unit := do
  let _ ← visibility

/-- What kind of type is declared. -/
inductive DataKind where
  | struct
  | enum
  | union
deriving DecidableEq

/-- The word for a kind of type. -/
def DataKind.word : DataKind → String
  | struct => "struct"
  | enum => "enum"
  | union => "union"

/-- All kinds of types. -/
def DataKind.all : List DataKind :=
  [.struct, .enum, .union]

/-- The kind of type whose word is ahead. -/
def expectDataKind : Scan DataKind := do
  let tokens := (← get).ahead
  match DataKind.all.find? (startsWord ·.word tokens) with
  | some kind =>
    skipToken
    return kind
  | none => refuse (DataKind.all.map fun kind => "`" ++ kind.word ++ "`")

/-- Fields stand here in place of the type of a field without a name. -/
def startsNestedFields (tokens : List Token) : Bool :=
  startsWord "struct" tokens || startsWord "union" tokens && startsGroup .brace (behind tokens)

namespace PhraseScan

variable (scan : PhraseScan)

/-! ## Fields -/

/-- A field in braces. One whose name is left open may hold fields in place of a type. -/
def namedField : Scan Unit := do
  skipAttributes scan
  skipVisibility
  let isOpen ← acceptWord "_"
  unless isOpen do expectName
  expectMarks ":"
  if ← acceptToken fun tokens => isOpen && startsNestedFields tokens then skip scan .fields
  else skipType scan

/-- Fields with names. -/
def fields : Scan Unit :=
  within .brace (commaSeparated List.isEmpty (namedField scan))

/-- A field without a name. -/
def unnamedField : Scan Unit := do
  skipAttributes scan
  skipVisibility
  skipType scan

/-- Fields without names. -/
def unnamedFields : Scan Unit :=
  within .parenthesis (commaSeparated List.isEmpty (unnamedField scan))

/-- A case of an enumeration, with its fields and its number. -/
def variant : Scan Unit := do
  skipAttributes scan
  skipVisibility
  expectName
  if ← peek (startsGroup .brace) then skip scan .fields
  else if ← peek (startsGroup .parenthesis) then unnamedFields scan
  if ← acceptMarks "=" then skipExpression scan

/-! ## What declares a type -/

/-- The fields of a structure. Conditions stand before named fields and behind unnamed ones. -/
def structureFields : Scan Unit := do
  let conditioned ← conditions scan
  let first := if conditioned then [] else ["`where`", "parentheses"]
  if ← peek fun tokens => !conditioned && startsGroup .parenthesis tokens then
    unnamedFields scan
    let conditioned ← conditions scan
    unless ← acceptMarks ";" do
      refuse (if conditioned then ["`;`"] else ["`where`", "`;`"])
  else if ← peek (startsGroup .brace) then skip scan .fields
  else
    unless ← acceptMarks ";" do
      refuse (first ++ ["curly braces", "`;`"])

/-- The cases of an enumeration. -/
def variants : Scan Unit := do
  skipConditions scan
  within .brace (commaSeparated List.isEmpty (variant scan))

/-- The fields of a union. -/
def unionFields : Scan Unit := do
  skipConditions scan
  skip scan .fields

/-- What a declared type holds, behind its name and parameters. -/
def content : DataKind → Scan Unit
  | .struct => structureFields scan
  | .enum => variants scan
  | .union => unionFields scan

/-- A declared type behind the word for its kind, with its name. -/
def declared (kind : DataKind) : Scan Name := do
  let name ← take takeName
  parameters scan
  content scan kind
  return name

end PhraseScan

end Dimensional.Marker
