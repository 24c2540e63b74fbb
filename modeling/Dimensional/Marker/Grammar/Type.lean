import Dimensional.Marker.Grammar.Parameter

/-! # Types -/

namespace Dimensional.Marker

/-- The things with which a type can start. -/
def typeStarts : List String :=
  ["parentheses", "`fn`", "`unsafe`", "`extern`", "identifier", "`::`", "`<`", "`dyn`",
    "square brackets", "`*`", "`&`", "`!`", "`impl`", "`_`", "lifetime"]

/-- The name of the conventions by which a function is called, if it is ahead. -/
def convention : Scan Unit := do
  if ← acceptWord "extern" then
    let _ ← acceptToken startsString

/-- What stands in the parentheses around a type. -/
inductive Parenthesized where
  /-- A type that is no bound, or several types. -/
  | types
  /-- A type that is also a bound. -/
  | bound
  /-- A bound that is no type on its own. -/
  | relaxed
deriving DecidableEq

namespace PhraseScan

variable (scan : PhraseScan)

/-! ## Functions -/

/-- Three dots for further parameters, perhaps with a name before them. -/
def startsVariadic (tokens : List Token) : Bool :=
  startsMarks "..." tokens ||
    (startsName tokens || startsWord "_" tokens) && startsMarks ":" (behind tokens) &&
      startsMarks "..." (behind (behind tokens))

/-- Three dots for further parameters, perhaps with a name before them and a comma behind. -/
def variadic : Scan Unit := do
  unless ← acceptMarks "..." do
    skipToken
    expectMarks ":"
    expectMarks "..."
  let _ ← acceptMarks ","

/-- The own value stands at the front, to be changed. -/
def startsMutSelf (tokens : List Token) : Bool :=
  startsWord "mut" tokens && startsWord "self" (behind tokens)

/-- One parameter in the type of a function, perhaps named. The first may be the own value. -/
def namedType (first : Bool) : Scan Unit := do
  let changing ← acceptToken fun tokens => first && startsMutSelf tokens
  let ofSelf ← peek fun tokens => first && startsWord "self" tokens
  let named ← peek fun tokens =>
    (startsName tokens || startsWord "_" tokens || ofSelf) && startsMarksBut ["::"] ":" (behind tokens)
  if named then
    skipToken
    expectMarks ":"
  if ← peek fun tokens => first && !(named && ofSelf) && startsMutSelf tokens then
    skipToken
    skipToken
  else if changing && !named then expectWord "self"
  else skipType scan

/-- The parameters in the type of a function. Nothing may follow three dots. -/
def parameterTypes : Scan Unit := do
  let _ ← iterate (fun first => do
    if ← peek List.isEmpty then return (first, false)
    skipAttributes scan
    if ← peek startsVariadic then
      variadic
      return (first, false)
    namedType scan first
    if ← peek List.isEmpty then return (first, false)
    expectMarks ","
    return (false, true)) true

/-- The type of a function. -/
def functionType : Scan Unit := do
  let _ ← acceptWord "unsafe"
  convention
  expectWord "fn"
  withinThen .parenthesis (parameterTypes scan) fun _ => result scan false

/-! ## Types in parentheses -/

/-- The inside of parentheses: no type, one, or several with commas. -/
def parenthesized : Scan Parenthesized := do
  if ← peek List.isEmpty then return .types
  else if ← peek startsLifetime then
    objectBounds scan true
    return .types
  else if ← peek (startsMarks "?") then
    traitBound scan ⟨false, false⟩
    return .relaxed
  else
    let shape ← scan (.type true)
    if ← acceptMarks "," then
      commaSeparated List.isEmpty (skipType scan)
      return .types
    else return if shape = .other then .types else .bound

/-- Bounds, each behind a plus, and whether there are any. -/
def addedBounds : Scan Bool := do
  let added ← peek (startsMarks "+")
  repeatScan do
    if ← acceptMarks "+" then
      skip scan (.bound ⟨false, false⟩)
      return true
    else return false
  return added

/-- The bounds behind parentheses around a type, if it is a bound. -/
def behindParentheses (plus : Bool) : Parenthesized → Scan TypeShape
  | .types => return .other
  | .bound => do
    if plus then
      let _ ← addedBounds scan
    return .other
  | .relaxed => return if ← addedBounds scan then .other else .loneBound

/-- A type in parentheses, perhaps with bounds behind it. -/
def parenthesizedType (plus : Bool) : Scan TypeShape :=
  withinThen .parenthesis (parenthesized scan) (behindParentheses scan plus)

/-! ## Types that start with a path -/

/-- A path as a type: the path itself, a call of a macro by it, or the first of some bounds. -/
def pathType (plus quantified : Bool) : Scan TypeShape := do
  let p ← qualifiedPath scan false
  if p.qualified then return .other
  else if (← macroCall? p).isSome then return .other
  else if plus && (← peek (startsMarks "+")) then
    repeatScan do
      if ← acceptMarks "+" then
        if ← peek (startsBound ⟨false, false⟩) then
          skip scan (.bound ⟨false, false⟩)
          return true
        else return false
      else return false
    return .other
  else return if quantified then .loneBound else .path p.isSingle

/-! ## Types -/

/-- A type in brackets, perhaps with a length. -/
def arrayType : Scan Unit :=
  within .bracket do
    skipType scan
    if ← acceptMarks ";" then skipExpression scan

/-- A type with no parameters before it. -/
def unquantifiedType (plus quantified : Bool) : Scan TypeShape := do
  if ← peek (startsGroup .parenthesis) then parenthesizedType scan plus
  else if ← peek (startsAnyWord ["fn", "unsafe", "extern"]) then
    functionType scan
    return .other
  else if ← peek startsBuiltin then
    builtin
    return .other
  else if ← peek startsPath then pathType scan plus quantified
  else if ← acceptWord "dyn" then
    let _ ← acceptMarks "*"
    objectBounds scan plus
    return .other
  else if ← peek (startsGroup .bracket) then
    arrayType scan
    return .other
  else if ← acceptMarks "*" then
    unless ← acceptToken (startsAnyWord ["const", "mut"]) do refuse ["`const`", "`mut`"]
    skip scan (.type false)
    return .other
  else if ← acceptMarks "&" then
    let _ ← acceptLifetime
    let _ ← acceptWord "mut"
    skip scan (.type false)
    return .other
  else if ← acceptMarks "!" then return .other
  else if ← acceptWord "impl" then
    hiddenBounds scan plus
    return .other
  else if ← acceptWord "_" then return .other
  else if ← peek startsLifetime then
    objectBounds scan true
    return .other
  else refuse (if quantified then typeStarts else "`for`" :: typeStarts)

/-- A type. Parameters before it are for a function or for a bound. -/
def type (plus : Bool) : Scan TypeShape := do
  if ← quantifier scan then
    if ← peek fun tokens =>
        startsName tokens || startsAnyWord (["fn", "unsafe", "extern"] ++ pathWords) tokens then
      unquantifiedType scan plus true
    else
      refuse ["identifier", "`fn`", "`unsafe`", "`extern`", "`super`", "`self`", "`Self`", "`crate`"]
  else unquantifiedType scan plus false

end PhraseScan

end Dimensional.Marker
