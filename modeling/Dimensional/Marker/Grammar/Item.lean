import Dimensional.Marker.Grammar.Function

/-!
# Items

Items declare names. They stand in blocks, in modules, and as members in traits, implementations and
foreign blocks.
-/

namespace Dimensional.Marker

/-- The words in quotes, as complaints name them. One that stands at the front is no complaint. -/
def wantedWords (words : List String) (tokens : List Token) : List String :=
  (words.filter (!startsWord · tokens)).map fun w => "`" ++ w ++ "`"

/-- The start of a call of a macro, as complaints name it. -/
def callStarts : List String :=
  ["identifier", "`self`", "`super`", "`crate`", "`::`"]

/-- A path for a call of a macro can start here. -/
def startsItemPath (tokens : List Token) : Bool :=
  startsName tokens || startsAnyWord ["self", "super", "crate"] tokens || startsMarks "::" tokens

/-- A trait that holds of itself is declared here. -/
def startsAutoTrait (tokens : List Token) : Bool :=
  startsWord "auto" tokens && startsWord "trait" (behind tokens)

namespace PhraseScan

variable (scan : PhraseScan)

/-! ## Calls and definitions of macros -/

/-- A call of a macro. A semicolon ends it, unless its arguments stand in braces. -/
def macroItem (named : Bool) : Scan Unit := do
  let _ ← expectPlainPath
  expectMarks "!"
  if named then
    let _ ← acceptToken fun tokens => startsName tokens || startsWord "try" tokens
  let (d, _) ← expectGroup
  unless d = .brace do expectMarks ";"

/-- A definition of a macro. -/
def macroDefinition : Scan Unit := do
  expectName
  let argued ← peek (startsGroup .parenthesis)
  if argued then skipGroup .parenthesis
  if ← peek (startsGroup .brace) then skipGroup .brace
  else refuse (if argued then ["curly braces"] else ["parentheses", "curly braces"])

/-! ## Imports -/

/-- The names that an item makes known, perhaps from the root of all names. -/
def imports (rooted : Bool) : Scan Unit := do
  if ← acceptToken fun tokens =>
      startsName tokens || startsAnyWord ["self", "super", "crate", "try"] tokens then
    if ← acceptMarks "::" then skip scan (.imports false)
    else if ← acceptWord "as" then
      unless ← acceptToken fun tokens => startsName tokens || startsWord "_" tokens do
        refuse ["identifier or underscore"]
  else if ← acceptMarks "*" then return
  else if ← peek (startsGroup .brace) then
    within .brace <| commaSeparated List.isEmpty do
      let fromRoot ← if rooted then acceptMarks "::" else pure false
      skip scan (.imports (rooted && !fromRoot))
  else refuse ["identifier", "`self`", "`super`", "`crate`", "`try`", "`*`", "curly braces"]

/-- An item that makes names known. -/
def importItem : Scan Unit := do
  expectWord "use"
  let fromRoot ← acceptMarks "::"
  skip scan (.imports !fromRoot)
  expectMarks ";"

/-- An item that makes a foreign collection of names known. -/
def externalImport : Scan Unit := do
  expectWord "crate"
  unless ← acceptWord "self" do expectName
  if ← acceptWord "as" then
    unless ← acceptWord "_" do expectName
  expectMarks ";"

/-! ## Values and types -/

/-- A static value. Its type or its value may be missing. -/
def staticItem : Scan Unit := do
  let _ ← acceptWord "mut"
  expectName
  if ← acceptMarks "=" then skipExpression scan
  else
    expectMarks ":"
    skipType scan
    if ← peek (startsMarks ";") then pure ()
    else
      expectMarks "="
      skipExpression scan
  expectMarks ";"

/-- A constant. Its value may be missing. -/
def constantItem : Scan Unit := do
  unless ← acceptToken fun tokens => startsName tokens || startsWord "_" tokens do
    refuse ["identifier", "`_`"]
  parameters scan
  expectMarks ":"
  skipType scan
  if ← acceptMarks "=" then skipExpression scan
  skipConditions scan
  expectMarks ";"

/-- A name for a type, perhaps with bounds in place of the type. Conditions stand before the type, behind
it or in one of both places. -/
def typeItem (before behind : Bool) : Scan Unit := do
  expectName
  parameters scan
  if ← acceptMarks ":" then
    plusSeparatedTo (fun tokens => startsWord "where" tokens || startsMarks "=" tokens || startsMarks ";" tokens)
      (skipBound scan)
  let conditioned ← if before then conditions scan else pure false
  if ← acceptMarks "=" then skipType scan
  if behind && !conditioned then skipConditions scan
  expectMarks ";"

/-! ## Members -/

/-- Everything in braces behind inner attributes, with each item behind its attributes. -/
def members (member : Scan Unit) : Scan Unit :=
  within .brace do
    skipInnerAttributes scan
    repeatScan do
      if ← peek List.isEmpty then return false
      skipAttributes scan
      member
      return true

/-- A function in a trait. Its body may be missing. -/
def traitFunction : Scan Unit := do
  signature scan false
  if ← peek (startsGroup .brace) then body scan
  else unless ← acceptMarks ";" do refuse ["curly braces", "`;`"]

/-- A constant in a trait, or a function that starts with the word for one. -/
def traitConstant : Scan Unit := do
  let next := behind (← get).ahead
  if startsName next || startsWord "_" next then
    skipToken
    constantItem scan
  else if startsAnyWord ["async", "unsafe", "extern", "fn"] next then traitFunction scan
  else
    skipToken
    refuse ["identifier", "`_`", "`async`", "`unsafe`", "`extern`", "`fn`"]

/-- A member of a trait. -/
def traitMember : Scan Unit := do
  let shown ← visibility
  let default ← acceptWord "default"
  let plain := !shown && !default
  if ← peek (startsFunction false) then traitFunction scan
  else if ← peek (startsWord "const") then traitConstant scan
  else if ← acceptWord "type" then typeItem scan false true
  else if ← peek fun tokens => plain && startsItemPath tokens then macroItem false
  else refuse (["`fn`", "`const`", "`type`"] ++ if plain then callStarts else [])

/-- A member of an implementation. -/
def implementationMember : Scan Unit := do
  let shown ← visibility
  let before := (← get).ahead
  let default ← acceptToken fun tokens => startsWord "default" tokens && !startsMarks "!" (behind tokens)
  let plain := !shown && !default
  if ← peek (startsFunction false) then
    signature scan false
    unless ← acceptMarks ";" do body scan
  else if ← acceptWord "const" then constantItem scan
  else if ← acceptWord "type" then typeItem scan false true
  else if ← peek fun tokens => plain && startsItemPath tokens then macroItem false
  else
    refuse ((if default then [] else wantedWords ["default"] before) ++ ["`fn`", "`const`", "`type`"] ++
      if plain then callStarts else [])

/-- A static value in a foreign block stands at the front. -/
def startsForeignStatic (tokens : List Token) : Bool :=
  startsWord "static" tokens ||
    startsAnyWord ["unsafe", "safe"] tokens && startsWord "static" (behind tokens)

/-- A static value in a foreign block. -/
def foreignStatic : Scan Unit := do
  let _ ← acceptToken (startsAnyWord ["unsafe", "safe"])
  expectWord "static"
  let _ ← acceptWord "mut"
  expectName
  expectMarks ":"
  skipType scan
  if ← acceptMarks "=" then skipExpression scan
  expectMarks ";"

/-- A member of a foreign block. -/
def foreignMember : Scan Unit := do
  let shown ← visibility
  if ← peek (startsFunction true) then
    signature scan true
    if ← peek (startsGroup .brace) then body scan else expectMarks ";"
  else if ← peek startsForeignStatic then foreignStatic scan
  else if ← acceptWord "type" then typeItem scan true true
  else if ← peek fun tokens => !shown && startsItemPath tokens then macroItem false
  else refuse (["`fn`", "`static`", "`type`"] ++ if shown then [] else callStarts)

/-! ## Traits, implementations and modules -/

/-- A trait behind its parameters. -/
def traitBody : Scan Unit := do
  if ← acceptMarks ":" then
    plusSeparatedTo (fun tokens => startsWord "where" tokens || startsGroup .brace tokens) (skipBound scan)
  skipConditions scan
  members scan (traitMember scan)

/-- A trait that is a name for others, behind its parameters. -/
def traitAlias : Scan Unit := do
  expectMarks "="
  plusSeparatedTo (fun tokens => startsWord "where" tokens || startsMarks ";" tokens)
    (skip scan (.bound ⟨false, false⟩))
  skipConditions scan
  expectMarks ";"

/-- A trait, or a name for others. -/
def traitItem : Scan Unit := do
  expectName
  parameters scan
  if ← peek fun tokens =>
      startsGroup .brace tokens || startsMarks ":" tokens || startsWord "where" tokens then
    traitBody scan
  else if ← peek (startsMarks "=") then traitAlias scan
  else refuse ["curly braces", "`:`", "`where`", "`=`"]

/-- A trait with words before it. -/
def markedTrait : Scan Unit := do
  let _ ← acceptWord "auto"
  expectWord "trait"
  expectName
  parameters scan
  traitBody scan

/-- An implementation, of a trait or of none. -/
def implementation : Scan Unit := do
  let _ ← acceptWord "default"
  let _ ← acceptWord "unsafe"
  expectWord "impl"
  if ← peek startsParameters then parameters scan
  if ← peek fun tokens =>
      startsWord "const" tokens || startsMarks "?" tokens && startsWord "const" (behind tokens) then
    let _ ← acceptMarks "?"
    expectWord "const"
  let negative ← acceptToken fun tokens => startsMarks "!" tokens && !startsGroup .brace (behind tokens)
  skipType scan
  if ← acceptWord "for" then skipType scan
  else if negative then throw .negativeInherent
  skipConditions scan
  members scan (implementationMember scan)

/-- A foreign block behind its convention. -/
def foreignBlock : Scan Unit :=
  members scan (foreignMember scan)

/-- An item that starts with the word for what is foreign. Nothing tells who sees a foreign block. -/
def externalItem (shown : Bool) : Scan Unit := do
  expectWord "extern"
  if ← peek (startsWord "crate") then externalImport
  else
    let called ← acceptToken startsString
    unless ← peek (startsGroup .brace) do
      refuse (if called then ["curly braces"] else ["`crate`", "curly braces", "string literal"])
    if shown then throw (.expected ["`extern`"] false)
    foreignBlock scan

/-- A module. Its items may stand elsewhere. -/
def moduleItem : Scan Unit := do
  expectWord "mod"
  unless ← acceptWord "try" do expectName
  if ← acceptMarks ";" then return
  else if ← peek (startsGroup .brace) then members scan (skip scan .item)
  else refuse ["`;`", "curly braces"]

/-- An item that starts with the word for what is unsafe, but no function. -/
def unsafeItem (shown : Bool) : Scan Unit := do
  expectWord "unsafe"
  if ← peek fun tokens => startsWord "trait" tokens || startsAutoTrait tokens then markedTrait scan
  else if ← peek (startsWord "impl") then implementation scan
  else if ← peek (startsWord "extern") then
    if shown then throw (.expected ["`extern`"] false)
    convention
    foreignBlock scan
  else if ← peek (startsWord "mod") then moduleItem scan
  else refuse (wantedWords ["trait", "auto", "impl", "extern", "mod"] (← get).ahead)

/-! ## Items -/

/-- A structure, an enumeration or a union stands at the front. -/
def startsData (tokens : List Token) : Bool :=
  startsAnyWord ["struct", "enum"] tokens || startsWord "union" tokens && startsName (behind tokens)

/-- The words that start an item. -/
def itemWords : List String :=
  ["fn", "extern", "use", "static", "const", "unsafe", "mod", "type", "struct", "enum", "union", "trait",
    "auto", "impl", "default", "macro"]

/-- An item behind its attributes. -/
def item : Scan Unit := do
  let shown ← visibility
  if ← peek (startsFunction false) then
    signature scan false
    unless ← acceptMarks ";" do body scan
  else if ← peek (startsWord "extern") then externalItem scan shown
  else if ← peek (startsWord "use") then importItem scan
  else if ← acceptWord "static" then staticItem scan
  else if ← acceptWord "const" then constantItem scan
  else if ← peek (startsWord "unsafe") then unsafeItem scan shown
  else if ← peek (startsWord "mod") then moduleItem scan
  else if ← acceptWord "type" then typeItem scan true false
  else if ← peek startsData then
    let _ ← declared scan (← expectDataKind)
  else if ← acceptWord "trait" then traitItem scan
  else if ← peek startsAutoTrait then markedTrait scan
  else if ← peek fun tokens =>
      startsWord "impl" tokens || startsWord "default" tokens && !startsMarks "!" (behind tokens) then
    implementation scan
  else if ← acceptWord "macro" then macroDefinition
  else if ← peek fun tokens => !shown && startsItemPath tokens then macroItem true
  else refuse (wantedWords itemWords (← get).ahead ++ if shown then [] else callStarts)

end PhraseScan

end Dimensional.Marker
