import Dimensional.Marker.Grammar.Expression

/-!
# Operands

An operand is an expression without operators between others: an atom with the signs before it and the
steps into its value behind it.
-/

namespace Dimensional.Marker

/-- The sign of an operand stands at the front. -/
def startsSign (tokens : List Token) : Bool :=
  ["*", "!", "-"].any (startsMarks · tokens)

/-- A word that makes a reference a plain address stands at the front. -/
def startsRaw (tokens : List Token) : Bool :=
  startsWord "raw" tokens && startsAnyWord ["mut", "const"] (behind tokens)

namespace PhraseScan

variable (scan : PhraseScan)

/-! ## Structures, lists and functions -/

/-- The fields of a structure. The last two dots fill up the others from a value, perhaps a given one. -/
def fieldValues : Scan Unit :=
  within .brace <| repeatScan do
    if ← peek List.isEmpty then return false
    if ← acceptMarks ".." then
      unless ← peek List.isEmpty do skipExpression scan
      return false
    skipAttributes scan
    let named ← expectMember
    if !named || (← peek (startsMarks ":")) then
      expectMarks ":"
      skipExpression scan
    if ← peek List.isEmpty then return false
    expectMarks ","
    return true

/-- An expression that starts with a path: the path itself, a call of a macro or a structure. -/
def pathExpression (structs : Bool) : Scan ExpressionShape := do
  let p ← qualifiedPath scan true
  match ← macroCall? p with
  | some d => return if d = .brace then .bracedCall else .other
  | none =>
    if structs && (← peek (startsGroup .brace)) then fieldValues scan
    return .other

/-- The values of a list, or one value and how often it is repeated. -/
def listElements : Scan Unit := do
  unless ← peek List.isEmpty do
    skipExpression scan
    if ← acceptMarks ";" then skipExpression scan
    else unless ← peek List.isEmpty do
      unless ← acceptMarks "," do refuse ["`,`", "`;`"]
      commaSeparated List.isEmpty (skipExpression scan)

/-- A parameter of a function without a name. -/
def closureParameter : Scan Unit := do
  skipAttributes scan
  skip scan .pattern
  if ← acceptMarks ":" then skipType scan

/-- A function without a name. With a type for its value its body is a block. -/
def closure (structs : Bool) : Scan Unit := do
  let _ ← quantifier scan
  for word in ["const", "static", "async", "move"] do
    let _ ← acceptWord word
  expectMarks "|"
  commaSeparated (startsMarks "|") (closureParameter scan)
  expectMarks "|"
  if ← acceptMarks "->" then
    skipType scan
    block scan
  else skip scan (.expression structs)

/-! ## Jumps -/

/-- A value behind a word, if one is ahead. -/
def optionalValue : Scan Unit := do
  if ← peek startsExpression then skipExpression scan

/-- The label and the value behind the word that ends a loop. -/
def breakTarget (structs : Bool) : Scan Unit := do
  if ← peek fun tokens => startsLifetime tokens && startsMarks ":" (behind tokens) then
    skipExpression scan
    throw .parenthesesRequired
  let _ ← acceptLifetime
  unless !structs && (← peek (startsGroup .brace)) do optionalValue scan

/-- A condition that a pattern fits a value. -/
def patternCondition (structs : Bool) : Scan Unit := do
  skipAlternatives scan
  expectMarks "="
  let left ← scan (.operand structs)
  let _ ← operations scan structs .comparison left

/-! ## Operands -/

/-- An expression that starts with a word, and whether one is ahead. -/
def wordExpression (structs : Bool) : Scan Bool := do
  if ← acceptWord "break" then
    breakTarget scan structs
    return true
  else if ← acceptWord "continue" then
    let _ ← acceptLifetime
    return true
  else if ← acceptToken (startsAnyWord ["return", "yield"]) then
    optionalValue scan
    return true
  else if ← acceptWord "become" then
    skipExpression scan
    return true
  else if ← acceptWord "let" then
    patternCondition scan structs
    return true
  else acceptWord "_"

/-- An expression without operators, signs and steps. -/
def atom (structs : Bool) : Scan ExpressionShape := do
  if ← peek startsConstant then
    let _ ← take takeConstant
    return .other
  else if ← peek startsAsyncBlock then
    expectWord "async"
    let _ ← acceptWord "move"
    block scan
    return .other
  else if ← peek startsBlock then
    blockExpression scan
    return .block
  else if ← peek startsClosure then
    closure scan structs
    return .other
  else if ← peek startsBuiltin then
    builtin
    return .other
  else if ← peek startsPathExpression then pathExpression scan structs
  else if ← peek (startsGroup .parenthesis) then
    callArguments scan
    return .other
  else if ← peek (startsGroup .bracket) then
    within .bracket (listElements scan)
    return .other
  else if ← peek (startsMarks "..") then
    rangeEnd scan structs
    return .range
  else if ← wordExpression scan structs then return .other
  else refuse ["an expression"]

/-- An operand. -/
def operand (structs : Bool) : Scan ExpressionShape := do
  let attributed ← peek (startsMarks "#")
  skipAttributes scan
  if ← acceptMarks "&" then
    if ← acceptToken startsRaw then skipToken
    else
      let _ ← acceptWord "mut"
    skip scan (.operand structs)
    return .other
  else if ← acceptToken startsSign then
    skip scan (.operand structs)
    return .other
  else
    let shape ← steps scan (← atom scan structs)
    if attributed && shape = .range then throw .attributesOnRange
    return shape

end PhraseScan

end Dimensional.Marker
