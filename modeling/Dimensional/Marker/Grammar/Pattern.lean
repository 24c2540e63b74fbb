import Dimensional.Marker.Grammar.Type
import Dimensional.Marker.Lexeme
import Dimensional.Number.Power

/-! # Members and patterns -/

namespace Dimensional.Marker

open scoped Powers

/-! ## Members -/

/-- A whole number stands at the front, perhaps with a minus before it. -/
def startsInteger : List Token → Bool
  | .literal { value := .integer .., .. } :: _ => true
  | .mark '-' _ :: .literal { value := .integer .., .. } :: _ => true
  | _ => false

/-- The number of a member that has no name. It stands without the name of a type and without a sign, and
is stored in 32 bits. -/
def takeIndex : List Token → Except Complaint (Unit × List Token)
  | .literal { value := .integer n suffixed, .. } :: rest =>
    if suffixed then .error (.expected ["unsuffixed integer"] false)
    else if 2 ^ (32 : Nat) ≤ n then .error .numberTooLarge
    else .ok ((), rest)
  | .mark '-' _ :: .literal { value := .integer _ suffixed, .. } :: _ =>
    .error (if suffixed then .expected ["unsuffixed integer"] false else .invalidDigit)
  | tokens => .error (notFound ["integer literal"] tokens)

/-- Takes the number of a member that has no name. -/
def expectIndex : Scan Unit :=
  take takeIndex

/-- Takes a member, and tells whether it has a name. -/
def expectMember : Scan Bool := do
  if ← acceptToken startsName then return true
  else if ← peek startsInteger then
    expectIndex
    return false
  else refuse ["identifier or integer"]

/-- The number with a point at the front of the tokens, as it is written, and the rest. -/
def skipFraction? : List Token → Option (String × List Token)
  | .literal { written, value := .float } :: rest => some (written, rest)
  | .mark '-' _ :: .literal { written, value := .float } :: rest => some ("-" ++ written, rest)
  | _ => none

/-- The numbers of members one within the other, which look like one number with points, and whether no
point is left at their end. -/
def takeIndices (tokens : List Token) : Except Complaint (Bool × List Token) :=
  match skipFraction? tokens with
  | none => return (false, tokens)
  | some (written, rest) => do
    let parts := written.splitOn "."
    let ends := parts.getLast? = some ""
    for part in if ends then parts.dropLast else parts do
      scanAll expectIndex (← tokensOf part)
    return (!ends, rest)

/-- Takes the numbers of members one within the other, if they are ahead, and tells whether no point is
left at their end. -/
def acceptIndices : Scan Bool :=
  take takeIndices

namespace PhraseScan

variable (scan : PhraseScan)

/-! ## Several patterns -/

/-- A bar between two patterns stands at the front. -/
def startsAlternative (tokens : List Token) : Bool :=
  startsMarksBut ["||", "|="] "|" tokens

/-- A pattern with its alternatives, perhaps with a bar before the first. -/
def alternatives : Scan PatternShape := do
  let barred ← acceptMarks "|"
  let first ← scan .pattern
  let several ← peek startsAlternative
  repeatScan do
    if ← peek startsAlternative then
      expectMarks "|"
      skip scan .pattern
      return true
    else return false
  return if barred || several then .other else first

/-- A pattern with its alternatives, of which nothing is kept. -/
def skipAlternatives : Scan Unit := do
  let _ ← alternatives scan

/-- Patterns in parentheses. One alone is grouped by them, unless it stands for further values. -/
def patterns : Scan Unit :=
  within .parenthesis (commaSeparated List.isEmpty (skipAlternatives scan))

/-- Patterns for the values of a slice. -/
def slicePattern : Scan Unit :=
  within .bracket do
    commaSeparated List.isEmpty do
      if (← alternatives scan) = .openRange then throw .openRangeInSlice

/-! ## Ranges -/

/-- A range in a pattern has no end before these tokens. -/
def endsBound (tokens : List Token) : Bool :=
  tokens.isEmpty || startsMarksBut ["::"] ":" tokens || startsWord "if" tokens ||
    ["|", "=", ",", ";"].any (startsMarks · tokens)

/-- A value that bounds a range in a pattern, and whether one is ahead. -/
def patternBound : Scan Bool := do
  if ← peek endsBound then return false
  else if ← peek startsConstant then
    let _ ← take takeConstant
    return true
  else if ← peek startsPath then
    let _ ← qualifiedPath scan true
    return true
  else if ← acceptWord "const" then
    body scan
    return true
  else
    refuse ["literal", "identifier", "`::`", "`<`", "`self`", "`Self`", "`super`", "`crate`", "`const`"]

/-- The end of a range in a pattern, behind its dots. -/
def patternEnd (closed : Bool) : Scan PatternShape := do
  if ← patternBound scan then return .other
  else if closed then refuse ["range upper bound"]
  else return .openRange

/-! ## Patterns that start with a path -/

/-- One field in the pattern of a structure: its name with a pattern, or a name that is bound to it. -/
def fieldPattern : Scan Unit := do
  let boxed ← acceptWord "box"
  let byReference ← acceptWord "ref"
  let changing ← acceptWord "mut"
  if boxed || byReference || changing then expectName
  else
    let named ← expectMember
    if !named || (← peek (startsMarks ":")) then
      expectMarks ":"
      skipAlternatives scan

/-- The fields in the pattern of a structure. Nothing may follow two dots. -/
def fieldPatterns : Scan Unit :=
  within .brace <| repeatScan do
    if ← peek List.isEmpty then return false
    skipAttributes scan
    if ← acceptMarks ".." then return false
    fieldPattern scan
    if ← peek List.isEmpty then return false
    expectMarks ","
    return true

/-- A pattern that starts with a path. -/
def pathPattern : Scan PatternShape := do
  let p ← qualifiedPath scan true
  if (← macroCall? p).isSome then return .other
  else if ← peek (startsGroup .brace) then
    fieldPatterns scan
    return .other
  else if ← peek (startsGroup .parenthesis) then
    patterns scan
    return .other
  else if ← peek (startsMarks "..") then
    patternEnd scan (← patternDots)
  else return .other

/-! ## Patterns -/

/-- A pattern that starts with a path and not with a name to bind stands at the front. -/
def startsPathPattern (tokens : List Token) : Bool :=
  let next := behind tokens
  startsName tokens &&
      (startsMarks "::" next || startsMarks "!" next || startsGroup .brace next ||
        startsGroup .parenthesis next || startsMarks ".." next) ||
    startsWord "self" tokens && startsMarks "::" next ||
    startsMarks "::" tokens || startsMarks "<" tokens || startsAnyWord ["Self", "super", "crate"] tokens

/-- A name that is bound to a value, perhaps with a pattern for the value. -/
def binding : Scan Unit := do
  let _ ← acceptWord "ref"
  let _ ← acceptWord "mut"
  unless ← acceptWord "self" do expectName
  if ← acceptMarks "@" then skip scan .pattern

/-- The things with which a pattern can start. Three dots start none. -/
def patternStarts (tokens : List Token) : List String :=
  ["identifier", "`::`", "`<`", "`_`", "literal", "`const`", "`ref`", "`mut`", "`&`", "parentheses",
      "square brackets"] ++
    (if startsMarks ".." tokens then [] else ["`..`"]) ++ ["`const`"]

/-- A pattern without alternatives. -/
def pattern : Scan PatternShape := do
  if ← peek startsPathPattern then pathPattern scan
  else if ← acceptWord "_" then return .other
  else if ← acceptWord "box" then
    skip scan .pattern
    return .other
  else if ← peek fun tokens =>
      startsMarks "-" tokens || startsConstant tokens || startsWord "const" tokens then
    let _ ← patternBound scan
    if ← peek (startsMarks "..") then patternEnd scan (← patternDots) else return .other
  else if ← peek fun tokens => startsAnyWord ["ref", "mut", "self"] tokens || startsName tokens then
    binding scan
    return .other
  else if ← acceptMarks "&" then
    let _ ← acceptWord "mut"
    skip scan .pattern
    return .other
  else if ← peek (startsGroup .parenthesis) then
    patterns scan
    return .other
  else if ← peek (startsGroup .bracket) then
    slicePattern scan
    return .other
  else if ← peek (startsMarksBut ["..."] "..") then
    let closed ← rangeDots
    if ← patternBound scan then return .openRange
    else if closed then refuse ["range upper bound"]
    else return .rest
  else refuse (patternStarts (← get).ahead)

end PhraseScan

end Dimensional.Marker
