/-!
# The inside of quoted literals

A quoted literal ends at its closing quote. Inside, a backslash starts an escape, a line end may be one
or two characters but counts as one, and a carriage return alone is refused. In a raw literal nothing
is an escape, and the quote counts only with as many hashes behind it as stand before the opening one.
-/

namespace Dimensional.Marker

/-- The kinds of quoted literal. -/
inductive Quoting where
  /-- A string or a character. -/
  | text
  /-- A string of bytes or a byte. -/
  | bytes
  /-- A string that ends at its first zero. -/
  | zeroEnded
deriving DecidableEq

/-- The character may stand for itself. -/
def Quoting.admits : Quoting → Char → Bool
  | text, _ => true
  | bytes, c => c.toNat < 0x80
  | zeroEnded, c => c ≠ '\x00'

/-- The value of a hexadecimal digit. -/
def hexDigit? (c : Char) : Option Nat :=
  if c.isDigit then some (c.toNat - '0'.toNat)
  else if 'a' ≤ c ∧ c ≤ 'f' then some (10 + (c.toNat - 'a'.toNat))
  else if 'A' ≤ c ∧ c ≤ 'F' then some (10 + (c.toNat - 'A'.toNat))
  else none

/-- The character of a code point, if there is one. -/
def codePoint? (n : Nat) : Option Char :=
  if n.isValidChar then some (Char.ofNat n) else none

/-- The one to six digits of a code point up to the closing brace. An underscore may stand behind a
digit. -/
def codePointDigits (count value : Nat) : List Char → Option (Char × List Char)
  | [] => none
  | c :: rest =>
    match hexDigit? c with
    | some d => if count = 6 then none else codePointDigits (count + 1) (16 * value + d) rest
    | none =>
      if count = 0 then none
      else if c = '_' then codePointDigits count value rest
      else if c = '\x7d' then (codePoint? value).map (·, rest)
      else none

/-- The two digits of a short escape. -/
def shortCode (q : Quoting) : List Char → Option (Char × List Char)
  | a :: b :: rest => do
    let n := 16 * (← hexDigit? a) + (← hexDigit? b)
    let fits : Bool :=
      match q with
      | .text => n < 0x80
      | .bytes => true
      | .zeroEnded => n ≠ 0
    if fits then some (Char.ofNat n, rest) else none
  | _ => none

/-- The character that an escape stands for, and the rest. The backslash is already read. -/
def escaped (q : Quoting) : List Char → Option (Char × List Char)
  | 'n' :: rest => some ('\n', rest)
  | 'r' :: rest => some ('\r', rest)
  | 't' :: rest => some ('\t', rest)
  | '\\' :: rest => some ('\\', rest)
  | '\'' :: rest => some ('\'', rest)
  | '"' :: rest => some ('"', rest)
  | '0' :: rest => if q = .zeroEnded then none else some ('\x00', rest)
  | 'x' :: rest => shortCode q rest
  | 'u' :: '\x7b' :: rest => do
    let (c, rest) ← codePointDigits 0 0 rest
    match q with
    | .text => some (c, rest)
    | .bytes => none
    | .zeroEnded => if c = '\x00' then none else some (c, rest)
  | _ => none

/-- The text behind a line end and the blanks after it. -/
def skipLineEnd : List Char → Option (List Char)
  | '\r' :: '\n' :: rest => skipLineEnd rest
  | '\r' :: _ => none
  | ' ' :: rest => skipLineEnd rest
  | '\t' :: rest => skipLineEnd rest
  | '\n' :: rest => skipLineEnd rest
  | rest => some rest

/-- One character of a quoted literal, none for a line end behind a backslash, and the rest. -/
def quotedStep (q : Quoting) : List Char → Option (Option Char × List Char)
  | '\r' :: '\n' :: rest => some (some '\n', rest)
  | '\r' :: _ => none
  | '\\' :: '\n' :: rest => (skipLineEnd ('\n' :: rest)).map (none, ·)
  | '\\' :: '\r' :: rest => (skipLineEnd ('\r' :: rest)).map (none, ·)
  | '\\' :: rest => (escaped q rest).map fun (c, rest) => (some c, rest)
  | c :: rest => if q.admits c then some (some c, rest) else none
  | [] => none

/-- The meaning of a quoted literal up to its closing quote, and the rest. -/
def quoted (q : Quoting) (cs : List Char) : Option (List Char × List Char) :=
  match cs with
  | '"' :: rest => some ([], rest)
  | cs =>
    match quotedStep q cs with
    | none => none
    | some (c, rest) =>
      if rest.length < cs.length then
        (quoted q rest).map fun (text, rest) => (c.toList ++ text, rest)
      else none
termination_by cs.length

/-- The rest behind a number of hashes, if they stand at the front. -/
def skipHashes : Nat → List Char → Option (List Char)
  | 0, rest => some rest
  | n + 1, '#' :: rest => skipHashes n rest
  | _, _ => none

/-- The inside of a raw literal up to its closing quote and hashes, and the rest. -/
def rawBody (q : Quoting) (hashes : Nat) : List Char → Option (List Char × List Char)
  | [] => none
  | c :: rest =>
    match c, rest, skipHashes hashes rest with
    | '"', _, some rest => some ([], rest)
    | '\r', '\n' :: after, _ =>
      (rawBody q hashes after).map fun (text, rest) => ('\r' :: '\n' :: text, rest)
    | '\r', _, _ => none
    | c, rest, _ =>
      if q.admits c then (rawBody q hashes rest).map fun (text, rest) => (c :: text, rest)
      else none

/-- The inside of a raw literal from its hashes on, at most 255 of them. -/
def rawQuoted (q : Quoting) (cs : List Char) : Option (List Char × List Char) :=
  let hashes := (cs.takeWhile (· = '#')).length
  match cs.drop hashes with
  | '"' :: rest => if hashes ≤ 255 then rawBody q hashes rest else none
  | _ => none

end Dimensional.Marker
