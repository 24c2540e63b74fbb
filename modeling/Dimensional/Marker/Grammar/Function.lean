import Dimensional.Marker.Grammar.Fields

/-! # Functions -/

namespace Dimensional.Marker

/-- The tokens behind a word, if it stands at the front. -/
def dropWord (text : String) (tokens : List Token) : List Token :=
  if startsWord text tokens then behind tokens else tokens

/-- A function is declared here. In a foreign block it may be said to be safe. -/
def startsFunction (foreign : Bool) (tokens : List Token) : Bool :=
  let tokens := dropWord "async" (dropWord "const" tokens)
  let tokens :=
    if foreign && startsWord "safe" tokens then behind tokens else dropWord "unsafe" tokens
  let tokens :=
    if startsWord "extern" tokens then
      if startsString (behind tokens) then behind (behind tokens) else behind tokens
    else tokens
  startsWord "fn" tokens

namespace PhraseScan

variable (scan : PhraseScan)

/-! ## Parameters -/

/-- The parameter for the own value. -/
def receiver : Scan Unit := do
  let referred ← acceptMarks "&"
  if referred then
    let _ ← acceptLifetime
  let _ ← acceptWord "mut"
  expectWord "self"
  unless referred do
    if ← acceptMarks ":" then skipType scan

/-- The parameters read before one in the same list. -/
inductive Before where
  | nothing
  | receiver
  | plain
deriving DecidableEq

/-- A parameter with its type, and whether it stands for any further ones. An older form has no name. -/
def typedParameter : Scan Bool := do
  if ← peek fun tokens => startsName tokens && startsMarks "<" (behind tokens) then
    skipType scan
    return false
  else
    skip scan .pattern
    expectMarks ":"
    if ← acceptMarks "..." then return true
    else
      skipType scan
      return false

/-- A comma, unless the parameters are at their end. -/
def commaOrEnd : Scan Unit := do
  unless ← peek List.isEmpty do expectMarks ","

/-- One parameter, and whether others may follow. -/
def functionParameter (before : Before) : Scan (Before × Bool) := do
  skipAttributes scan
  if ← acceptMarks "..." then return (before, false)
  else if (← attempt (receiver scan)).isSome then
    match before with
    | .nothing => return (.receiver, true)
    | .receiver => throw .secondReceiver
    | .plain => throw .lateReceiver
  else
    let further ← typedParameter scan
    return (if before = .nothing then .plain else before, !further)

/-- The parameters of a function. Nothing may follow those that stand for any further ones. -/
def functionParameters : Scan Unit := do
  let _ ← iterate (fun before => do
    if ← peek List.isEmpty then return (before, false)
    let (before, more) ← functionParameter scan before
    commaOrEnd
    return (before, more)) Before.nothing

/-! ## Functions -/

/-- A function up to its body. -/
def signature (foreign : Bool) : Scan Unit := do
  let _ ← acceptWord "const"
  let _ ← acceptWord "async"
  unless ← acceptWord "unsafe" do
    let _ ← acceptToken fun tokens => foreign && startsWord "safe" tokens
  convention
  expectWord "fn"
  expectName
  parameters scan
  withinThen .parenthesis (functionParameters scan) fun _ => do
    result scan true
    skipConditions scan

end PhraseScan

end Dimensional.Marker
