import Dimensional.Marker.Grammar.Phrase

/-!
# Attributes

An attribute is a path without arguments in brackets, alone, with a value or with tokens of its own.
-/

namespace Dimensional.Marker

/-- What an attribute says behind its path. -/
inductive AttributeContent where
  | empty
  /-- An equals sign and a value. -/
  | value
  /-- Tokens between two delimiters. -/
  | arguments (tokens : List Token)

/-- An attribute. -/
structure Attribute where
  /-- The path starts with two colons. -/
  rooted : Bool
  path : List Name
  content : AttributeContent

/-! ## Paths without arguments -/

/-- The names of a path without arguments, up to the last that two colons follow. -/
def plainPath : Nat → Scan (List Name × Bool)
  | 0 => return ([], false)
  | n + 1 => do
    match (← get).ahead with
    | .name name :: _ =>
      if name.isKeyword && !startsAnyWord pathWords [.name name] then return ([], true)
      skipToken
      if ← acceptMarks "::" then
        let (names, isOpen) ← plainPath n
        return (name :: names, isOpen)
      else return ([name], false)
    | _ => return ([], true)

/-- Takes a path without arguments. -/
def expectPlainPath : Scan (Bool × List Name) := do
  let rooted ← acceptMarks "::"
  let (names, isOpen) ← plainPath (← get).ahead.length
  if names.isEmpty then expectName
  else if isOpen then refuse ["path segment after `::`"]
  return (rooted, names)

/-- Takes a group between any delimiters, with what it encloses. -/
def expectGroup : Scan (Delimiter × List Token) := do
  match (← get).ahead with
  | .group d content :: _ =>
    skipToken
    return (d, content)
  | _ => refuse ["delimiter"]

namespace PhraseScan

variable (scan : PhraseScan)

/-! ## Attributes -/

/-- A constant stands alone. -/
def isConstant (tokens : List Token) : Bool :=
  match skipConstant? tokens with
  | some (_, []) => true
  | _ => false

/-- Takes the value of an attribute: a lone constant or an expression. -/
def attributeValue : Scan Unit := do
  if ← peek isConstant then modify fun place => { place with ahead := [] }
  else
    if ← peek fun tokens => startsMarks "#" tokens && startsGroup .bracket (behind tokens) then
      throw .attributeInAttribute
    skipExpression scan

/-- Takes the inside of an attribute. -/
def attributeInside : Scan Attribute := do
  let (rooted, path) ←
    if ← acceptWord "unsafe" then pure (false, [{ text := "unsafe" }]) else expectPlainPath
  if ← peek startsAnyGroup then
    let (_, content) ← expectGroup
    return { rooted, path, content := .arguments content }
  else if ← peek (startsMarksBut ["=="] "=") then
    expectMarks "="
    attributeValue scan
    return { rooted, path, content := .value }
  else return { rooted, path, content := .empty }

/-- Takes the attributes ahead, at most so many. -/
def attributesAtMost : Nat → Scan (List Attribute)
  | 0 => return []
  | n + 1 => do
    if ← acceptMarks "#" then
      let a ← within .bracket (attributeInside scan)
      return a :: (← attributesAtMost n)
    else return []

/-- Takes all attributes ahead. -/
def attributes : Scan (List Attribute) := do
  attributesAtMost scan (← get).ahead.length

/-- Takes attributes of which nothing is kept. -/
def skipAttributes : Scan Unit := do
  let _ ← attributes scan

/-- Takes the attributes of what encloses them. -/
def skipInnerAttributes : Scan Unit :=
  repeatScan do
    if ← peek fun tokens => startsMarks "#" tokens && startsMarks "!" (behind tokens) then
      expectMarks "#"
      expectMarks "!"
      let _ ← within .bracket (attributeInside scan)
      return true
    else return false

/-! ## Blocks -/

/-- A block. -/
def block : Scan Unit :=
  within .brace (skip scan .statements)

/-- A block that may start with attributes of what it is the body of. -/
def body : Scan Unit :=
  within .brace do
    skipInnerAttributes scan
    skip scan .statements

end PhraseScan

end Dimensional.Marker
