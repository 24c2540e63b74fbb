import Dimensional.Marker.Complaint
import Dimensional.Marker.Escape
import Dimensional.Text.Blank
import Dimensional.Text.Identifier
import Dimensional.Text.Quoted

/-!
# From text to tokens

A text is cut from left to right into lexemes: tokens, opening brackets and closing brackets. Blanks and
comments leave no lexeme, and a comment for readers of documentation leaves an attribute. The brackets
then fold the lexemes into a tree.
-/

namespace Dimensional.Marker

open Text (isIdentStart isIdentContinue)

/-- A piece of a text. -/
inductive Lexeme where
  | token (t : Token)
  | opening (d : Delimiter)
  | closing (d : Delimiter)

/-! ## Names -/

/-- The identifier at the front of a text, and the rest. -/
def identifier : List Char → Option (List Char × List Char)
  | [] => none
  | c :: rest =>
    if isIdentStart c then
      some (c :: rest.takeWhile isIdentContinue, rest.dropWhile isIdentContinue)
    else none

/-- Words that stay keywords behind the mark `r#`. -/
def neverRaw : List String :=
  ["_", "super", "self", "Self", "crate"]

/-- The name at the front of a text, and the rest. -/
def name? : List Char → Option (Name × List Char)
  | 'r' :: '#' :: rest => do
    let (text, rest) ← identifier rest
    let text := String.ofList text
    if text ∈ neverRaw then none else some ({ text, raw := true }, rest)
  | cs => do
    let (text, rest) ← identifier cs
    return ({ text := String.ofList text }, rest)

/-- The front of a text is the start of a quoted literal, so that no name can stand there. -/
def startsQuoted (cs : List Char) : Bool :=
  ["r\"", "r#\"", "r##", "b\"", "b'", "br\"", "br#", "c\"", "cr\"", "cr#"].any
    fun s => s.toList.isPrefixOf cs

/-! ## Numbers -/

/-- The rest of a text behind the suffix of a literal, if it has one. -/
def skipSuffix (cs : List Char) : List Char :=
  match identifier cs with
  | some (_, rest) => rest
  | none => cs

/-- The rest of a number behind its suffix. Nothing that continues a name may follow. -/
def endNumber (cs : List Char) : Option (List Char) :=
  match skipSuffix cs with
  | [] => some []
  | c :: rest => if isIdentContinue c then none else some (c :: rest)

/-- The value of the digits in a base, underscores apart, and the text behind them. A decimal digit
too large for the base is refused, a letter too large for it starts the suffix. -/
def digits (base : Nat) (value : Nat) (empty : Bool) : List Char → Option (Nat × List Char)
  | [] => if empty then none else some (value, [])
  | c :: rest =>
    match hexDigit? c with
    | some d =>
      if d < base then digits base (base * value + d) false rest
      else if c.isDigit || empty then none
      else some (value, c :: rest)
    | none =>
      if c = '_' then
        if empty && base = 10 then none else digits base value empty rest
      else if empty then none
      else some (value, c :: rest)

/-- The whole number at the front of a text, and the rest. -/
def wholeNumber (cs : List Char) : Option (Value × List Char) := do
  let (value, rest) ←
    match cs with
    | '0' :: 'x' :: rest => digits 16 0 true rest
    | '0' :: 'o' :: rest => digits 8 0 true rest
    | '0' :: 'b' :: rest => digits 2 0 true rest
    | cs => digits 10 0 true cs
  return (.integer value (identifier rest).isSome, ← endNumber rest)

/-- The character belongs to a run of decimal digits. -/
def isDigitOrGap (c : Char) : Bool :=
  c.isDigit || c = '_'

/-- The text behind the digits of a power of ten, if they hold a digit. The letter is already read. -/
def powerOfTen (cs : List Char) : Option (List Char) :=
  let cs :=
    match cs.dropWhile (· = '_') with
    | '+' :: rest => rest
    | '-' :: rest => rest
    | _ => cs
  if (cs.takeWhile isDigitOrGap).any Char.isDigit then some (cs.dropWhile isDigitOrGap) else none

/-- The text behind the digits of a number with a point or a power of ten. The point belongs to the
number unless another point or a name follows it. -/
def fractionalDigits (cs : List Char) : Option (List Char) :=
  match cs with
  | [] => none
  | c :: _ =>
    if c.isDigit then
      match cs.dropWhile isDigitOrGap with
      | '.' :: rest =>
        if rest.head?.any fun c => c = '.' || isIdentStart c then none
        else
          let rest := rest.dropWhile isDigitOrGap
          match rest with
          | 'e' :: power => some ((powerOfTen power).getD rest)
          | 'E' :: power => some ((powerOfTen power).getD rest)
          | _ => some rest
      | 'e' :: power => powerOfTen power
      | 'E' :: power => powerOfTen power
      | _ => none
    else none

/-- The number with a point or a power of ten at the front of a text, and the rest. -/
def fractionalNumber (cs : List Char) : Option (Value × List Char) := do
  return (.float, ← endNumber (← fractionalDigits cs))

/-! ## Literals -/

/-- The string at the front of a text, and the rest. -/
def stringLiteral : List Char → Option (Value × List Char)
  | '"' :: rest => (quoted .text rest).map fun (text, rest) => (.string text, skipSuffix rest)
  | 'r' :: rest => (rawQuoted .text rest).map fun (text, rest) => (.string text, skipSuffix rest)
  | _ => none

/-- The string of bytes, or string that ends at a zero, at the front of a text, and the rest. -/
def bytesLiteral : List Char → Option (Value × List Char)
  | 'b' :: '"' :: rest => (quoted .bytes rest).map fun (_, rest) => (.other, skipSuffix rest)
  | 'b' :: 'r' :: rest => (rawQuoted .bytes rest).map fun (_, rest) => (.other, skipSuffix rest)
  | 'c' :: '"' :: rest => (quoted .zeroEnded rest).map fun (_, rest) => (.other, skipSuffix rest)
  | 'c' :: 'r' :: rest => (rawQuoted .zeroEnded rest).map fun (_, rest) => (.other, skipSuffix rest)
  | _ => none

/-- The text behind one character and the apostrophe that ends its literal. -/
def quotedCharacter (q : Quoting) (cs : List Char) : Option (List Char) := do
  let rest ←
    match cs with
    | [] => none
    | '\\' :: rest => (escaped q rest).map (·.2)
    | c :: rest => if q.admits c then some rest else none
  match rest with
  | '\'' :: rest => some (skipSuffix rest)
  | _ => none

/-- The character or byte at the front of a text, and the rest. -/
def characterLiteral : List Char → Option (Value × List Char)
  | 'b' :: '\'' :: rest => (quotedCharacter .bytes rest).map (.other, ·)
  | '\'' :: rest => (quotedCharacter .text rest).map (.other, ·)
  | _ => none

/-- The literal at the front of a text, and the rest. -/
def literal? (cs : List Char) : Option (Literal × List Char) := do
  let (value, rest) ←
    stringLiteral cs <|> bytesLiteral cs <|> characterLiteral cs <|> fractionalNumber cs <|> wholeNumber cs
  return ({ written := String.ofList (cs.take (cs.length - rest.length)), value }, rest)

/-! ## Comments -/

/-- The inside of a comment up to the mark that closes it, and the rest. Comments nest. -/
def blockComment (depth : Nat) : List Char → Option (List Char × List Char)
  | '/' :: '*' :: rest => (blockComment (depth + 1) rest).map fun (t, rest) => ('/' :: '*' :: t, rest)
  | '*' :: '/' :: rest =>
    match depth with
    | 0 => some ([], rest)
    | depth + 1 => (blockComment depth rest).map fun (t, rest) => ('*' :: '/' :: t, rest)
  | c :: rest => (blockComment depth rest).map fun (t, rest) => (c :: t, rest)
  | [] => none

/-- The text up to the end of its line, and the rest. -/
def line (cs : List Char) : List Char × List Char :=
  let text := cs.takeWhile (· ≠ '\n')
  let rest := cs.dropWhile (· ≠ '\n')
  if rest.isEmpty || text.getLast? ≠ some '\r' then (text, rest) else (text.dropLast, rest)

/-- A carriage return stands without a line end behind it. -/
def hasBareReturn : List Char → Bool
  | '\r' :: '\n' :: rest => hasBareReturn rest
  | '\r' :: _ => true
  | _ :: rest => hasBareReturn rest
  | [] => false

/-- The attribute that a comment for readers of documentation stands for. The comment is about what
encloses it or about what follows it. -/
def documentation (enclosing : Bool) (text : List Char) : Option (List Lexeme) :=
  if hasBareReturn text then none
  else
    let content : Literal := { written := Text.quote (String.ofList text), value := .string text }
    let marks : List Token := if enclosing then [.mark '#' false, .mark '!' false] else [.mark '#' false]
    some (marks.map .token ++
      [.opening .bracket, .token (.word "doc"), .token (.mark '=' false), .token (.literal content),
        .closing .bracket])

/-- The comment at the front of a text with the lexemes it leaves, and the rest. -/
def comment? : List Char → Option (List Lexeme × List Char)
  | '/' :: '/' :: '/' :: '/' :: rest => some ([], (line rest).2)
  | '/' :: '/' :: '/' :: rest => do
    let (text, rest) := line rest
    return (← documentation false text, rest)
  | '/' :: '/' :: '!' :: rest => do
    let (text, rest) := line rest
    return (← documentation true text, rest)
  | '/' :: '/' :: rest => some ([], (line rest).2)
  | '/' :: '*' :: rest => do
    let (text, after) ← blockComment 0 rest
    match rest with
    | '*' :: '/' :: _ => return ([], after)
    | '*' :: '*' :: _ => return ([], after)
    | '*' :: _ => return (← documentation false text.tail, after)
    | '!' :: _ => return (← documentation true text.tail, after)
    | _ => return ([], after)
  | _ => none

/-! ## Marks -/

/-- The characters that are punctuation. -/
def punctuation : List Char :=
  "~!@#$%^&*-=+|;:,<.>/?'".toList

/-- A punctuation mark stands at the front of the text. The start of a comment is none. -/
def startsMark : List Char → Bool
  | '/' :: '/' :: _ => false
  | '/' :: '*' :: _ => false
  | c :: _ => c ∈ punctuation
  | [] => false

/-- The mark at the front of a text, and the rest. An apostrophe is a mark only before a name that is
not closed by another apostrophe. -/
def mark? (cs : List Char) : Option (Token × List Char) :=
  if startsMark cs then
    match cs with
    | '\'' :: rest =>
      match name? rest with
      | some (n, after) =>
        if after.head? = some '\'' || (after.head? = some '#' && !n.raw) then none
        else some (.mark '\'' true, rest)
      | none => none
    | c :: rest => some (.mark c (startsMark rest), rest)
    | [] => none
  else none

/-! ## Cutting -/

/-- The blank, which in the text of a declaration may also be a mark of writing direction. -/
def isGap (c : Char) : Bool :=
  Text.isBlank c || c = '\u200E' || c = '\u200F'

/-- The opening or closing bracket that a character is. -/
def bracket? : Char → Option Lexeme
  | '(' => some (.opening .parenthesis)
  | '[' => some (.opening .bracket)
  | '\x7b' => some (.opening .brace)
  | ')' => some (.closing .parenthesis)
  | ']' => some (.closing .bracket)
  | '\x7d' => some (.closing .brace)
  | _ => none

/-- What stands at the front of a text: a literal before a mark before a name, since each of them may
begin as one of those behind it. -/
def token? (cs : List Char) : Option (Token × List Char) :=
  match literal? cs with
  | some (l, rest) => some (.literal l, rest)
  | none =>
    match mark? cs with
    | some found => some found
    | none =>
      if startsQuoted cs then none
      else (name? cs).map fun (n, rest) => (.name n, rest)

/-- The text that stands for a literal that could not be written. It is a literal, not a group. -/
def lostLiteral : List Char :=
  "(/*ERROR*/)".toList

/-- The lexemes of the first gap, comment, bracket or token of a text, and the rest. -/
def firstLexemes (cs : List Char) : Option (List Lexeme × List Char) :=
  match cs with
  | [] => none
  | c :: rest =>
    if isGap c then some ([], rest)
    else if lostLiteral.isPrefixOf cs then
      let literal : Literal := { written := String.ofList lostLiteral, value := .other }
      some ([.token (.literal literal)], cs.drop lostLiteral.length)
    else
      match comment? cs with
      | some found => some found
      | none =>
        match bracket? c with
        | some l => some ([l], rest)
        | none => (token? cs).map fun (t, rest) => ([.token t], rest)

/-- The lexemes of a whole text. -/
def lexemes (cs : List Char) : Option (List Lexeme) :=
  if cs.isEmpty then some []
  else
    match firstLexemes cs with
    | none => none
    | some (ls, rest) =>
      if rest.length < cs.length then (lexemes rest).map (ls ++ ·) else none
termination_by cs.length

/-! ## Folding -/

/-- The tree of some lexemes behind the tokens already read, newest first, of the innermost group. The
groups around it wait with the tokens before them. -/
def nest (waiting : List (Delimiter × List Token)) (read : List Token) : List Lexeme → Option (List Token)
  | [] => if waiting.isEmpty then some read.reverse else none
  | .token t :: rest => nest waiting (t :: read) rest
  | .opening d :: rest => nest ((d, read) :: waiting) [] rest
  | .closing d :: rest =>
    match waiting with
    | [] => none
    | (opened, before) :: waiting =>
      if opened = d then nest waiting (.group d read.reverse :: before) rest else none

/-- The tokens of a text. A byte order mark at its front is not part of it. -/
def tokensOf (text : String) : Except Complaint (List Token) :=
  let cs :=
    match text.toList with
    | '\uFEFF' :: rest => rest
    | cs => cs
  match (lexemes cs).bind (nest [] []) with
  | some tokens => .ok tokens
  | none => .error .notTokens

end Dimensional.Marker
