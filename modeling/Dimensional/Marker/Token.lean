/-!
# Tokens

The text of a declaration is read as a tree of tokens: names, literals, single punctuation marks, and
groups of tokens between two delimiters.
-/

namespace Dimensional.Marker

/-- A pair of brackets that encloses a group. -/
inductive Delimiter where
  | parenthesis
  | bracket
  | brace
deriving DecidableEq

/-- The pair as a complaint names it. -/
def Delimiter.name : Delimiter → String
  | parenthesis => "parentheses"
  | bracket => "square brackets"
  | brace => "curly braces"

/-- The mark that opens a group. -/
def Delimiter.opening : Delimiter → Char
  | parenthesis => '('
  | bracket => '['
  | brace => '\x7b'

/-- The mark that closes a group. -/
def Delimiter.closing : Delimiter → Char
  | parenthesis => ')'
  | bracket => ']'
  | brace => '\x7d'

/-- A name, and whether it is written with the mark `r#` that makes a keyword a plain name. -/
structure Name where
  text : String
  raw : Bool := false
deriving DecidableEq

/-- The name as it is written. -/
def Name.written (n : Name) : String :=
  if n.raw then "r#" ++ n.text else n.text

/-- What a literal stands for, as far as it matters here. -/
inductive Value where
  /-- A whole number, and whether letters that name its type stand behind it. -/
  | integer (n : Nat) (suffixed : Bool)
  | float
  | string (text : List Char)
  /-- A character, a byte or a string of bytes. -/
  | other
deriving DecidableEq

/-- A literal, as written and as meant. -/
structure Literal where
  written : String
  value : Value
deriving DecidableEq

/-- A token. -/
inductive Token where
  | name (n : Name)
  | literal (l : Literal)
  /-- One punctuation mark, and whether another one follows it at once. -/
  | mark (c : Char) (joint : Bool)
  | group (d : Delimiter) (content : List Token)

namespace Token

/-- A name without the mark `r#`. -/
def word (text : String) : Token :=
  .name { text }

/-- Marks that are written without a space between them. -/
def marks (s : String) : List Token :=
  let rec go : List Char → List Token
    | [] => []
    | [c] => [.mark c false]
    | c :: d :: rest => .mark c true :: go (d :: rest)
  go s.toList

/-! ## Writing tokens -/

/-- Whether the token is written together with the one behind it. -/
def isJoint : Token → Bool
  | .mark _ joint => joint
  | _ => false

mutual

/-- The token as it is written. Braces stand apart from what they enclose. -/
def written : Token → String
  | .name n => n.written
  | .literal l => l.written
  | .mark c _ => c.toString
  | .group .brace [] => "\x7b \x7d"
  | .group .brace content => "\x7b " ++ writtenAll content ++ " \x7d"
  | .group d content => d.opening.toString ++ writtenAll content ++ d.closing.toString

/-- Tokens one after the other, with a space between two of them that are not joint. -/
def writtenAll : List Token → String
  | [] => ""
  | [t] => t.written
  | t :: u :: rest => t.written ++ (if t.isJoint then "" else " ") ++ writtenAll (u :: rest)

end

end Token

end Dimensional.Marker
