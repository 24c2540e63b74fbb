import Dimensional.Marker.Grammar.Pattern

/-! # Expressions -/

namespace Dimensional.Marker

/-- An expression can start here. -/
def startsExpression (tokens : List Token) : Bool :=
  startsAnyName tokens && !startsWord "as" tokens || startsAnyGroup tokens || startsConstant tokens ||
    startsMarksBut ["!="] "!" tokens || startsMarksBut ["-=", "->"] "-" tokens ||
    startsMarksBut ["*="] "*" tokens || startsMarksBut ["|="] "|" tokens ||
    startsMarksBut ["&="] "&" tokens || startsMarks ".." tokens ||
    startsMarksBut ["<=", "<<="] "<" tokens || startsMarks "::" tokens || startsLifetime tokens ||
    startsMarks "#" tokens

/-- An expression that ends with its block stands at the front, perhaps behind a label. -/
def startsBlock (tokens : List Token) : Bool :=
  startsAnyWord ["if", "while", "loop", "match", "unsafe"] tokens ||
    startsWord "for" tokens && !startsParameters (behind tokens) ||
    startsAnyWord ["try", "const"] tokens && startsGroup .brace (behind tokens) ||
    startsGroup .brace tokens || startsLifetime tokens

/-- A block that is run at another time stands at the front. -/
def startsAsyncBlock (tokens : List Token) : Bool :=
  startsWord "async" tokens &&
    (startsGroup .brace (behind tokens) ||
      startsWord "move" (behind tokens) && startsGroup .brace (behind (behind tokens)))

/-- A function without a name stands at the front. -/
def startsClosure (tokens : List Token) : Bool :=
  startsMarks "|" tokens || startsAnyWord ["move", "static"] tokens ||
    startsWord "for" tokens && startsParameters (behind tokens) ||
    startsWord "const" tokens && !startsGroup .brace (behind tokens) ||
    startsWord "async" tokens && (startsMarks "|" (behind tokens) || startsWord "move" (behind tokens))

/-- An expression that starts with a path stands at the front. -/
def startsPathExpression (tokens : List Token) : Bool :=
  startsPath tokens ||
    startsWord "try" tokens && (startsMarks "!" (behind tokens) || startsMarks "::" (behind tokens))

/-- A step into the value before it stands at the front: a dot that starts no range, or a question
mark. -/
def startsStep (tokens : List Token) : Bool :=
  startsMarksBut [".."] "." tokens || startsMarks "?" tokens

/-- What would belong to the type behind which it stands. -/
def castFollower? (tokens : List Token) : Option String :=
  let next := behind tokens
  let after := behind next
  if startsMarksBut [".."] "." tokens then
    if startsWord "await" next then some "`.await`"
    else if startsName next && (startsGroup .parenthesis after || startsMarks "::" after) then
      some "a method call"
    else some "a field access"
  else if startsMarks "?" tokens then some "`?`"
  else if startsGroup .bracket tokens then some "indexing"
  else if startsGroup .parenthesis tokens then some "a function call"
  else none

namespace PhraseScan

variable (scan : PhraseScan)

/-! ## Operators -/

/-- The end of a range, if it has one. -/
def rangeEnd (structs : Bool) : Scan Unit := do
  let closed ← rangeDots
  unless !closed && (← peek (endsRange structs)) do
    skip scan (.rightSide structs .range)

/-- A type that a value is changed to. -/
def castType : Scan Unit := do
  skip scan (.type false)
  match castFollower? (← get).ahead with
  | some what => throw (.castFollowed what)
  | none => return

/-- One operator with its right side behind an expression, and whether one is ahead that binds tightly
enough. A range is the left side of no operator. -/
def operation (structs : Bool) (base : Precedence) (left : ExpressionShape) :
    Scan (ExpressionShape × Bool) := do
  let tokens := (← get).ahead
  if left = .range then return (left, false)
  else
    match operator? tokens with
    | some (marks, p) =>
      if p.rank < base.rank then return (left, false)
      else
        if p = .comparison && left = .comparison then throw .chainedComparison
        expectMarks marks
        skip scan (.rightSide structs p)
        return (if p = .comparison then .comparison else .other, true)
    | none =>
      let p := precedenceAhead tokens
      if p.rank < base.rank then return (left, false)
      else
        match p with
        | .assignment =>
          expectMarks "="
          skip scan (.rightSide structs .assignment)
          return (.other, true)
        | .range =>
          rangeEnd scan structs
          return (.range, true)
        | .cast =>
          expectWord "as"
          castType scan
          return (.other, true)
        | _ => return (left, false)

/-- All operators behind an expression that bind tightly enough, with their right sides. -/
def operations (structs : Bool) (base : Precedence) (left : ExpressionShape) : Scan ExpressionShape :=
  iterate (operation scan structs base) left

/-- The right side of an operator. What binds more tightly belongs to it. -/
def rightSide (structs : Bool) (p : Precedence) : Scan ExpressionShape := do
  let first ← scan (.operand structs)
  iterate (fun right => do
    let tokens := (← get).ahead
    let next := precedenceAhead tokens
    if p.rank < next.rank || next = p && p = .assignment then
      let right ← operations scan structs next right
      return (right, decide ((← get).ahead.length < tokens.length))
    else return (right, false)) first

/-- An expression. -/
def expression (structs : Bool) : Scan ExpressionShape := do
  operations scan structs .none (← scan (.operand structs))

/-! ## Steps into a value -/

/-- The values that a function is called with. -/
def callArguments : Scan Unit :=
  within .parenthesis (commaSeparated List.isEmpty (skipExpression scan))

/-- A dot with what it reaches: a member, a call of a method or a wait. -/
def access : Scan Unit := do
  expectMarks "."
  if ← acceptIndices then return
  else if ← acceptWord "await" then return
  else if ← expectMember then
    if ← peek (startsMarks "::") then
      let _ ← arguments scan
      callArguments scan
    else if ← peek (startsGroup .parenthesis) then callArguments scan

/-- A step into the value of an expression, and whether one is ahead. -/
def step (shape : ExpressionShape) : Scan (ExpressionShape × Bool) := do
  if ← peek (startsGroup .parenthesis) then
    callArguments scan
    return (.other, true)
  else if ← peek (startsGroup .bracket) then
    within .bracket (skipExpression scan)
    return (.other, true)
  else if shape ≠ .range && (← peek startsStep) then
    unless ← acceptMarks "?" do access scan
    return (.other, true)
  else return (shape, false)

/-- All steps into the value of an expression. -/
def steps (shape : ExpressionShape) : Scan ExpressionShape :=
  iterate (step scan) shape

/-! ## Blocks -/

/-- An expression before a block that it does not contain. -/
def subject : Scan Unit :=
  skip scan (.expression false)

/-- One case of a choice by patterns. A comma ends it, unless it ends with a block. -/
def arm : Scan Unit := do
  skipAttributes scan
  skipAlternatives scan
  if ← acceptWord "if" then skipExpression scan
  expectMarks "=>"
  let shape ← scan .bounded
  if shape ≠ .block && !(← peek List.isEmpty) then expectMarks ","
  else
    let _ ← acceptMarks ","

/-- The cases of a choice by patterns. -/
def arms : Scan Unit :=
  repeatScan do
    if ← peek List.isEmpty then return false
    arm scan
    return true

/-- The branches behind a first word for a condition. -/
def branches : Scan Unit :=
  repeatScan do
    subject scan
    block scan
    if ← acceptWord "else" then
      if ← acceptWord "if" then return true
      else if ← peek (startsGroup .brace) then
        block scan
        return false
      else refuse ["`if`", "curly braces"]
    else return false

/-- An expression that ends with its block, without a label. -/
def unlabelledBlock : Scan Unit := do
  if ← acceptWord "if" then branches scan
  else if ← acceptWord "while" then
    subject scan
    body scan
  else if ← acceptWord "for" then
    skipAlternatives scan
    expectWord "in"
    subject scan
    body scan
  else if ← acceptWord "match" then
    subject scan
    within .brace do
      skipInnerAttributes scan
      arms scan
  else if ← acceptWord "try" then block scan
  else
    let _ ← acceptToken (startsAnyWord ["loop", "unsafe", "const"])
    body scan

/-- An expression that ends with its block. A label can stand before loops and plain blocks. -/
def blockExpression : Scan Unit := do
  if ← acceptLifetime then
    expectMarks ":"
    unless ← peek fun tokens =>
        startsAnyWord ["while", "for", "loop"] tokens || startsGroup .brace tokens do
      refuse ["loop or block expression"]
  unlabelledBlock scan

/-- An expression that goes on behind its block only by a step into its value. -/
def bounded : Scan ExpressionShape := do
  skipAttributes scan
  if ← peek startsBlock then
    blockExpression scan
    if ← peek startsStep then operations scan true .none (← steps scan .block) else return .block
  else expression scan true

end PhraseScan

end Dimensional.Marker
