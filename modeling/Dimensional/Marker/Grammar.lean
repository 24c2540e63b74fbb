import Dimensional.Marker.Grammar.Item

/-!
# The grammar

The levels of the grammar are tied together by a depth that the number of tokens bounds.
-/

namespace Dimensional.Marker

/-- One level of the grammar. -/
def PhraseScan.level (scan : PhraseScan) : PhraseScan
  | .type plus => type scan plus
  | .bound rule => bound scan rule
  | .fields => fields scan
  | .expression structs => expression scan structs
  | .operand structs => operand scan structs
  | .bounded => bounded scan
  | .rightSide structs p => rightSide scan structs p
  | .pattern => pattern scan
  | .statements => statements scan
  | .item => item scan
  | .imports rooted => imports scan rooted

/-- The scan for phrases down to a depth. -/
def phraseToDepth : Nat → PhraseScan
  | 0 => fun _ => refuse []
  | depth + 1 => (phraseToDepth depth).level

/-! ## Depth -/

mutual

/-- The number of tokens, those within groups included. -/
def Token.size : Token → Nat
  | .name _ => 1
  | .literal _ => 1
  | .mark .. => 1
  | .group _ content => Token.sizeAll content + 1

/-- The number of tokens in a list. -/
def Token.sizeAll : List Token → Nat
  | [] => 0
  | t :: rest => t.size + Token.sizeAll rest

end

/-- The scan for phrases. It never comes down to the end of the depth, as no phrase contains others more than
a few levels deep without a token between them. -/
def phrase : PhraseScan := fun p => do
  phraseToDepth (8 * (Token.sizeAll (← get).ahead + 1)) p

end Dimensional.Marker
