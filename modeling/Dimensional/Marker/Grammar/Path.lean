import Dimensional.Marker.Grammar.Attribute

/-!
# Paths

A path is a sequence of names with two colons between them. Each name may have arguments in angle
brackets.
-/

namespace Dimensional.Marker

/-- The arguments of one name of a path. -/
inductive Arguments where
  | absent
  /-- Angle brackets with nothing between them. -/
  | empty
  | given
deriving DecidableEq

/-- A path, as far as it decides what may follow. -/
structure PathShape where
  /-- The path starts from a type in angle brackets. -/
  qualified : Bool
  /-- The path starts with two colons. -/
  rooted : Bool
  /-- The arguments of each name. -/
  arguments : List Arguments

namespace PathShape

/-- The path is one name. -/
def isSingle (p : PathShape) : Bool :=
  !p.qualified && !p.rooted && p.arguments.length = 1

/-- The path can name a macro. -/
def isPlain (p : PathShape) : Bool :=
  !p.qualified && p.arguments.all (· = .absent)

/-- The last name of the path can still take arguments. -/
def isOpen (p : PathShape) : Bool :=
  p.arguments.getLast? ≠ some .given

end PathShape

/-- Marks that call a macro stand at the front. -/
def startsCall (tokens : List Token) : Bool :=
  startsMarksBut ["!="] "!" tokens

/-- A path can start here. -/
def startsPath (tokens : List Token) : Bool :=
  startsName tokens || startsAnyWord pathWords tokens || startsMarks "::" tokens || startsMarks "<" tokens

/-- The start of a form that is built into the language: a word, a number sign and a name. -/
def startsBuiltin (tokens : List Token) : Bool :=
  startsWord "builtin" tokens && startsMarks "#" (behind tokens)

/-- Takes a form that is built into the language, with whatever its parentheses enclose. -/
def builtin : Scan Unit := do
  expectWord "builtin"
  expectMarks "#"
  expectName
  skipGroup .parenthesis

namespace PhraseScan

variable (scan : PhraseScan)

/-! ## Arguments -/

/-- A value that is no type can stand here. -/
def startsValue (tokens : List Token) : Bool :=
  startsConstant tokens || startsGroup .brace tokens

/-- The value of an argument that is no type. -/
def value : Scan Unit := do
  if ← peek startsConstant then
    let _ ← take takeConstant
  else if ← acceptToken startsName then return
  else if ← peek (startsGroup .brace) then body scan
  else refuse []

/-- What a named type stands for, or the bounds on it, if either is ahead. -/
def typeCondition : Scan Unit := do
  if ← acceptMarks "=" then
    if ← peek startsValue then value scan else skipType scan
  else if ← acceptMarks ":" then
    plusSeparated (fun tokens => startsMarks "," tokens || startsMarks ">" tokens)
      (skip scan (.bound ⟨false, true⟩))

/-- One argument in angle brackets: a lifetime, a value, a type, or a condition on a named type. -/
def argument : Scan Unit := do
  if ← peek fun tokens => startsLifetime tokens && !startsMarks "+" (behind tokens) then expectLifetime
  else if ← peek startsValue then value scan
  else
    let shape ← scan (.type true)
    if shape = .path true then typeCondition scan

/-- Arguments in angle brackets, perhaps behind two colons. -/
def arguments : Scan Arguments := do
  let _ ← acceptMarks "::"
  expectMarks "<"
  let isEmpty ← peek (startsMarks ">")
  commaSeparated (startsMarks ">") (argument scan)
  expectMarks ">"
  return if isEmpty then .empty else .given

/-! ## Paths -/

/-- One name of a path. In an expression its arguments stand behind two colons. -/
def segment (inExpression : Bool) : Scan Arguments := do
  if ← acceptToken (startsAnyWord ["super", "self", "crate", "try"]) then return .absent
  else
    unless ← acceptWord "Self" do expectName
    let argued ← peek fun tokens =>
      !inExpression && startsMarksBut ["<=", "<<="] "<" tokens ||
        startsMarks "::" tokens && startsMarks "<" (behind (behind tokens))
    if argued then arguments scan else return .absent

/-- Two colons that lead on to a further name stand at the front. -/
def startsFurther (qualified : Bool) (tokens : List Token) : Bool :=
  startsMarks "::" tokens && (qualified || !startsGroup .parenthesis (behind (behind tokens)))

/-- The arguments of each name of a path. -/
def segments (inExpression qualified : Bool) : Scan (List Arguments) := do
  let first ← segment scan inExpression
  iterate (fun before => do
    if ← peek (startsFurther qualified) then
      expectMarks "::"
      return (before ++ [← segment scan inExpression], true)
    else return (before, false)) [first]

/-- A path. -/
def path (inExpression : Bool) : Scan PathShape := do
  let rooted ← acceptMarks "::"
  return { qualified := false, rooted, arguments := ← segments scan inExpression false }

/-- A path that may start from a type in angle brackets. -/
def qualifiedPath (inExpression : Bool) : Scan PathShape := do
  if ← acceptMarks "<" then
    skipType scan
    if ← acceptWord "as" then
      let _ ← path scan false
    expectMarks ">"
    expectMarks "::"
    return { qualified := true, rooted := false, arguments := ← segments scan inExpression true }
  else path scan inExpression

/-! ## Calls of macros -/

/-- A call of a macro by a path, if it is ahead: the delimiters of its arguments. -/
def macroCall? (p : PathShape) : Scan (Option Delimiter) := do
  if p.isPlain && (← peek startsCall) then
    expectMarks "!"
    let (d, _) ← expectGroup
    return some d
  else return none

end PhraseScan

end Dimensional.Marker
