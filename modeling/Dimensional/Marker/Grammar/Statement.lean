import Dimensional.Marker.Grammar.Operand

/-! # Statements -/

namespace Dimensional.Marker

/-- The tokens behind a path without arguments, if one stands at the front. -/
def behindPath? (tokens : List Token) : Option (List Token) :=
  match expectPlainPath.run { ahead := tokens } with
  | .ok (_, place) => some place.ahead
  | .error _ => none

/-- A call of a macro that declares a name stands at the front. -/
def startsNamedCall (tokens : List Token) : Bool :=
  match behindPath? tokens with
  | some after =>
    startsMarks "!" after && (startsName (behind after) || startsWord "try" (behind after))
  | none => false

/-- A call of a macro in braces stands at the front, and no step into its value follows it. -/
def startsBracedCall (tokens : List Token) : Bool :=
  match behindPath? tokens with
  | some after =>
    let next := behind after
    let last := behind next
    startsMarks "!" after && startsGroup .brace next &&
      !(startsMarksBut [".."] "." last || startsMarks "?" last)
  | none => false

/-- Something with a word before it is not run at once but declared. -/
def startsFunctionWord (tokens : List Token) : Bool :=
  startsAnyWord ["unsafe", "extern", "fn"] tokens

/-- A constant is declared here, and no expression starts with its word. -/
def startsConstantItem (tokens : List Token) : Bool :=
  let next := behind tokens
  startsWord "const" tokens &&
    !(startsGroup .brace next || startsAnyWord ["static", "move"] next || startsMarks "|" next ||
      startsWord "async" next && !startsFunctionWord (behind next))

/-- An item stands at the front. -/
def startsItem (tokens : List Token) : Bool :=
  let next := behind tokens
  startsAnyWord
      ["pub", "extern", "use", "fn", "mod", "type", "struct", "enum", "trait", "impl", "macro"] tokens ||
    startsWord "crate" tokens && !startsMarks "::" next ||
    startsWord "static" tokens && (startsWord "mut" next || startsName next) ||
    startsConstantItem tokens ||
    startsWord "unsafe" tokens && !startsGroup .brace next ||
    startsWord "async" tokens && startsFunctionWord next ||
    startsWord "union" tokens && startsName next ||
    startsWord "auto" tokens && startsWord "trait" next ||
    startsWord "default" tokens && startsAnyWord ["unsafe", "impl"] next ||
    startsNamedCall tokens

namespace PhraseScan

variable (scan : PhraseScan)

/-- The value that a name is bound to, perhaps with a block for values that do not fit. No such block
stands behind a value that ends with braces itself. -/
def initialValue : Scan Unit := do
  let before := (← get).ahead
  skipExpression scan
  let after := (← get).ahead
  match (before.take (before.length - after.length)).getLast? with
  | some (.group .brace _) => return
  | _ => if ← acceptWord "else" then block scan

/-- Binds names to a value. -/
def binds : Scan Unit := do
  expectWord "let"
  skip scan .pattern
  if ← acceptMarks ":" then skipType scan
  if ← acceptMarks "=" then initialValue scan
  expectMarks ";"

/-- A statement, and whether it needs no semicolon behind it. -/
def statement : Scan Bool := do
  skipAttributes scan
  if ← peek startsBracedCall then
    let _ ← expectPlainPath
    expectMarks "!"
    let _ ← expectGroup
    return true
  else if ← peek (startsWord "let") then
    binds scan
    return true
  else if ← peek startsItem then
    skip scan .item
    return true
  else
    let shape ← scan .bounded
    let ended ← acceptMarks ";"
    return ended || shape = .block || shape = .bracedCall

/-- The statements of a block. -/
def statements : Scan Unit :=
  repeatScan do
    repeatScan (acceptMarks ";")
    if ← peek List.isEmpty then return false
    let ended ← statement scan
    if ← peek List.isEmpty then return false
    unless ended do throw .unendedStatement
    return true

end PhraseScan

end Dimensional.Marker
