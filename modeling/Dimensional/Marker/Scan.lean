import Dimensional.Marker.Take

/-!
# Scanning tokens

A scan moves over tokens from left to right. Tokens left at the end of a group do not stop it: the first
such group is kept in mind, and counts once the rest is found to be in order.
-/

namespace Dimensional.Marker

/-- Where a scan stands. -/
structure Place where
  /-- The tokens ahead, within the innermost group. -/
  ahead : List Token
  /-- The first group with tokens that were not read. -/
  unread : Option Delimiter := none

/-- A step of a scan. -/
abbrev Scan (α : Type) := StateT Place (Except Complaint) α

/-! ## Looking ahead -/

/-- The marks stand at the front and are joint. -/
def startsMarks (marks : String) (tokens : List Token) : Bool :=
  (skipMarks? marks.toList tokens).isSome

/-- The marks stand at the front, and none of the longer ones does. -/
def startsMarksBut (longer : List String) (marks : String) (tokens : List Token) : Bool :=
  startsMarks marks tokens && !longer.any (startsMarks · tokens)

/-- The word stands at the front. -/
def startsWord (text : String) : List Token → Bool
  | .name n :: _ => n = { text }
  | _ => false

/-- One of the words stands at the front. -/
def startsAnyWord (texts : List String) (tokens : List Token) : Bool :=
  texts.any (startsWord · tokens)

/-- A name that is no keyword stands at the front. -/
def startsName : List Token → Bool
  | .name n :: _ => !n.isKeyword
  | _ => false

/-- A name or a keyword stands at the front. -/
def startsAnyName : List Token → Bool
  | .name _ :: _ => true
  | _ => false

/-- The words that start a path although they are keywords. -/
def pathWords : List String :=
  ["super", "self", "Self", "crate"]

/-- A lifetime stands at the front: an apostrophe and a name. -/
def startsLifetime : List Token → Bool
  | .mark '\'' _ :: .name _ :: _ => true
  | _ => false

/-- A constant stands at the front. -/
def startsConstant (tokens : List Token) : Bool :=
  (skipConstant? tokens).isSome

/-- A string stands at the front. -/
def startsString : List Token → Bool
  | .literal { value := .string _, .. } :: _ => true
  | _ => false

/-- A group between these delimiters stands at the front. -/
def startsGroup (d : Delimiter) : List Token → Bool
  | .group e _ :: _ => d = e
  | _ => false

/-- Any group stands at the front. -/
def startsAnyGroup : List Token → Bool
  | .group .. :: _ => true
  | _ => false

/-- The tokens behind the first. A lifetime counts as one. -/
def behind : List Token → List Token
  | .mark '\'' _ :: .name _ :: rest => rest
  | _ :: rest => rest
  | [] => []

/-! ## Steps -/

/-- Whether the tokens ahead are as asked. -/
def peek (p : List Token → Bool) : Scan Bool :=
  return p (← get).ahead

/-- Stops, since nothing wanted is ahead. -/
def refuse {α : Type} (wanted : List String) : Scan α := do
  throw (notFound wanted (← get).ahead)

/-- Takes something off the front. -/
def take {α : Type} (f : List Token → Except Complaint (α × List Token)) : Scan α := do
  let place ← get
  let (a, ahead) ← (f place.ahead : Except Complaint (α × List Token))
  set { place with ahead }
  return a

/-- Takes a name of which nothing is kept. -/
def expectName : Scan Unit := do
  let _ ← take takeName

/-- Takes marks. -/
def expectMarks (marks : String) : Scan Unit :=
  take fun tokens => (takeMarks marks tokens).map ((), ·)

/-- Takes one token, whatever it is. -/
def skipToken : Scan Unit :=
  modify fun place => { place with ahead := place.ahead.tail }

/-- Takes one token if there is one and the tokens ahead are as asked. -/
def acceptToken (p : List Token → Bool) : Scan Bool := do
  if ← peek fun tokens => !tokens.isEmpty && p tokens then
    skipToken
    return true
  else return false

/-- Takes marks if they are ahead. -/
def acceptMarks (marks : String) : Scan Bool := do
  if ← peek (startsMarks marks) then
    expectMarks marks
    return true
  else return false

/-- Takes a word if it is ahead. -/
def acceptWord (text : String) : Scan Bool :=
  acceptToken (startsWord text)

/-- Takes a word. -/
def expectWord (text : String) : Scan Unit := do
  unless ← acceptWord text do
    refuse ["`" ++ text ++ "`"]

/-- Takes a lifetime. -/
def expectLifetime : Scan Unit :=
  take takeLifetime

/-- Takes a lifetime if one is ahead. -/
def acceptLifetime : Scan Bool := do
  if ← peek startsLifetime then
    expectLifetime
    return true
  else return false

/-- Takes what a scan takes, unless it fails. -/
def attempt {α : Type} (scan : Scan α) : Scan (Option α) := fun place =>
  match scan.run place with
  | .ok (a, after) => .ok (some a, after)
  | .error _ => .ok (none, place)

/-! ## Groups -/

/-- Takes a group, scans what it encloses and then what follows. Tokens left in the group count behind
those left in groups that follow. -/
def withinThen {α β : Type} (d : Delimiter) (inside : Scan α) (following : α → Scan β) : Scan β := do
  let place ← get
  match place.ahead with
  | .group e content :: ahead =>
    if d = e then
      set { place with ahead := content }
      let a ← inside
      let left := if (← get).ahead.isEmpty then none else some d
      modify fun inner => { inner with ahead }
      let b ← following a
      modify fun after => { after with unread := after.unread <|> left }
      return b
    else refuse [d.name]
  | _ => refuse [d.name]

/-- Takes a group and scans what it encloses. -/
def within {α : Type} (d : Delimiter) (inside : Scan α) : Scan α :=
  withinThen d inside pure

/-- Takes a group with whatever it encloses. -/
def skipGroup (d : Delimiter) : Scan Unit :=
  within d (modify fun place => { place with ahead := [] })

/-! ## Repetition -/

/-- Repeats a step on a value until it says that there is no more, at most so many times. -/
def iterateAtMost {α : Type} (step : α → Scan (α × Bool)) : Nat → α → Scan α
  | 0, a => return a
  | n + 1, a => do
    let (a, more) ← step a
    if more then iterateAtMost step n a else return a

/-- Repeats a step on a value until it says that there is no more. Until then it takes a token each
time. -/
def iterate {α : Type} (step : α → Scan (α × Bool)) (a : α) : Scan α := do
  iterateAtMost step ((← get).ahead.length + 1) a

/-- Repeats a step that takes a token each time, until it says that there is no more. -/
def repeatScan (step : Scan Bool) : Scan Unit :=
  iterate (fun _ => return ((), ← step)) ()

/-- Items with a comma between two of them, and perhaps one behind the last. -/
def commaSeparated (isEnd : List Token → Bool) (item : Scan Unit) : Scan Unit :=
  repeatScan do
    if ← peek isEnd then return false
    item
    if ← peek isEnd then return false
    expectMarks ","
    return true

/-- Items with a plus between two of them, and perhaps one behind the last. The first token that is no
plus ends them. -/
def plusSeparated (isEnd : List Token → Bool) (item : Scan Unit) : Scan Unit :=
  repeatScan do
    if ← peek isEnd then return false
    item
    acceptMarks "+"

/-- Items with a plus between two of them, and perhaps one behind the last. They go on to their end. -/
def plusSeparatedTo (isEnd : List Token → Bool) (item : Scan Unit) : Scan Unit :=
  repeatScan do
    if ← peek isEnd then return false
    item
    if ← peek isEnd then return false
    expectMarks "+"
    return true

/-! ## Whole texts -/

/-- Runs a scan over all of the tokens. -/
def scanAll {α : Type} (scan : Scan α) (tokens : List Token) : Except Complaint α := do
  let (a, place) ← scan.run { ahead := tokens }
  match place.unread with
  | some d => throw (.leftover (some d))
  | none => if place.ahead.isEmpty then return a else throw (.leftover none)

end Dimensional.Marker
