import Dimensional.Marker.Grammar.Path

/-!
# Bounds, parameters and conditions

Bounds limit a type. They stand in the parameters of a declaration, in the conditions on these, and in
types that are known by their bounds alone.
-/

namespace Dimensional.Marker

/-- Angle brackets with parameters stand at the front, and not those of a qualified path. -/
def startsParameters (tokens : List Token) : Bool :=
  let inside := behind tokens
  let next := behind inside
  startsMarks "<" tokens &&
    (startsMarks ">" inside || startsMarks "#" inside || startsWord "const" inside ||
      (startsLifetime inside || startsName inside) &&
        (startsMarks ">" next || startsMarks "," next || startsMarksBut ["::"] ":" next ||
          startsMarks "=" next))

/-- A further bound can start here. -/
def startsBound (rule : BoundRule) (tokens : List Token) : Bool :=
  startsAnyName tokens || startsMarks "::" tokens || startsMarks "?" tokens ||
    startsLifetime tokens || startsGroup .parenthesis tokens ||
    rule.constant && startsGroup .bracket tokens

/-- What a type captures, in angle brackets. -/
def captures : Scan Unit := do
  expectMarks "<"
  repeatScan do
    if ← acceptLifetime then pure ()
    else if ← acceptToken fun tokens => startsName tokens || startsWord "Self" tokens then pure ()
    else if ← peek (startsMarks ">") then return false
    else refuse ["lifetime", "identifier", "`>`"]
    if ← acceptMarks "," then return true
    else if ← peek (startsMarks ">") then return false
    else refuse ["`,`", "`>`"]
  expectMarks ">"

namespace PhraseScan

variable (scan : PhraseScan)

/-! ## Parameters -/

/-- A bound where a parameter or a condition has it. -/
def skipBound : Scan Unit :=
  skip scan (.bound ⟨false, true⟩)

/-- A lifetime as a parameter, with the lifetimes that it outlives. -/
def lifetimeParameter : Scan Unit := do
  expectLifetime
  if ← acceptMarks ":" then
    plusSeparated (fun tokens => tokens.isEmpty || startsMarks "," tokens || startsMarks ">" tokens)
      expectLifetime

/-- A type as a parameter, with its bounds and what it is by default. -/
def typeParameter : Scan Unit := do
  expectName
  if ← acceptMarks ":" then
    plusSeparated (fun tokens => tokens.isEmpty || [",", ">", "="].any (startsMarks · tokens))
      (skipBound scan)
  if ← acceptMarks "=" then skipType scan

/-- A value as a parameter, with what it is by default. -/
def valueParameter : Scan Unit := do
  expectWord "const"
  expectName
  expectMarks ":"
  skipType scan
  if ← acceptMarks "=" then value scan

/-- One parameter of a declaration. -/
def parameter : Scan Unit := do
  skipAttributes scan
  if ← peek startsLifetime then lifetimeParameter
  else if ← peek startsName then typeParameter scan
  else if ← peek (startsWord "const") then valueParameter scan
  else if ← acceptWord "_" then return
  else refuse ["lifetime", "identifier", "`const`"]

/-- The parameters of a declaration, if it has any. -/
def parameters : Scan Unit := do
  if ← acceptMarks "<" then
    commaSeparated (startsMarks ">") (parameter scan)
    expectMarks ">"

/-- One of the parameters that a bound or a type holds for. -/
def quantified : Scan Unit := do
  skipAttributes scan
  if ← peek startsName then typeParameter scan
  else if ← peek startsLifetime then lifetimeParameter
  else if ← peek (startsWord "const") then valueParameter scan
  else refuse ["identifier", "lifetime", "`const`"]

/-- The parameters that a bound or a type holds for, if they are ahead, and whether they are. -/
def quantifier : Scan Bool := do
  if ← acceptWord "for" then
    expectMarks "<"
    commaSeparated (startsMarks ">") (quantified scan)
    expectMarks ">"
    return true
  else return false

/-! ## Bounds -/

/-- The type behind an arrow, if there is one. -/
def result (plus : Bool) : Scan Unit := do
  if ← acceptMarks "->" then skip scan (.type plus)

/-- The arguments of a function behind a path that names a trait, if they are ahead. -/
def functionArguments (p : PathShape) : Scan Unit := do
  let ahead ← peek fun tokens =>
    startsGroup .parenthesis tokens ||
      startsMarks "::" tokens && startsGroup .parenthesis (behind (behind tokens))
  if p.isOpen && ahead then
    let _ ← acceptMarks "::"
    within .parenthesis (commaSeparated List.isEmpty (skipType scan))
    result scan false

/-- A word that limits a bound to constants, alone or in brackets. -/
def constantMark (rule : BoundRule) : Scan Unit := do
  if ← peek (startsGroup .bracket) then
    within .bracket (expectWord "const")
    unless rule.constant do throw (.notAllowed "`[const]`")
  else if ← acceptWord "const" then
    unless rule.constant do throw (.notAllowed "`const`")

/-- A trait as a bound. -/
def traitBound (rule : BoundRule) : Scan Unit := do
  let before ← quantifier scan
  constantMark rule
  let relaxed ← acceptMarks "?"
  let among ← if relaxed && !before then quantifier scan else pure false
  functionArguments scan (← path scan false)
  if relaxed && (before || among) then throw .relaxedForLifetimes

/-- A bound. -/
def bound (rule : BoundRule) : Scan BoundShape := do
  if ← acceptLifetime then return .lifetime
  else if ← acceptWord "use" then
    captures
    unless rule.captures do throw (.notAllowed "`use<...>` precise capturing syntax")
    return .captures
  else if ← peek (startsGroup .parenthesis) then
    within .parenthesis (traitBound scan rule)
    return .trait
  else
    traitBound scan rule
    return .trait

/-- Bounds with a plus between two of them, and whether one is a trait. -/
def anyTrait (plus : Bool) (rule : BoundRule) : Scan Bool :=
  iterate (fun found => do
    let shape ← scan (.bound rule)
    let found := found || shape = .trait
    if plus then
      if ← acceptMarks "+" then return (found, ← peek (startsBound rule))
    return (found, false)) false

/-- The bounds that an object type is known by. -/
def objectBounds (plus : Bool) : Scan Unit := do
  unless ← anyTrait scan plus ⟨false, false⟩ do throw .objectWithoutTrait

/-- The bounds that an opaque type is known by. -/
def hiddenBounds (plus : Bool) : Scan Unit := do
  unless ← anyTrait scan plus ⟨true, true⟩ do throw .opaqueWithoutTrait

/-! ## Conditions -/

/-- A condition or a bound in one cannot go on here. -/
def endsCondition (tokens : List Token) : Bool :=
  tokens.isEmpty || startsGroup .brace tokens || startsMarks "," tokens || startsMarks ";" tokens ||
    startsMarksBut ["::"] ":" tokens || startsMarks "=" tokens

/-- One condition on the parameters: what a lifetime outlives or what bounds a type. -/
def condition : Scan Unit := do
  if ← peek fun tokens => startsLifetime tokens && startsMarks ":" (behind tokens) then
    expectLifetime
    expectMarks ":"
    plusSeparated (fun tokens => endsCondition tokens || startsMarks ":" tokens) expectLifetime
  else
    let _ ← quantifier scan
    skipType scan
    expectMarks ":"
    plusSeparated endsCondition (skipBound scan)

/-- The conditions on the parameters, if the word for them is ahead, and whether it is. -/
def conditions : Scan Bool := do
  if ← acceptWord "where" then
    if ← peek startsParameters then throw .parametersOnConditions
    repeatScan do
      if ← peek endsCondition then return false
      condition scan
      acceptMarks ","
    return true
  else return false

/-- The conditions on the parameters, if there are any. -/
def skipConditions : Scan Unit := do
  let _ ← conditions scan

end PhraseScan

end Dimensional.Marker
