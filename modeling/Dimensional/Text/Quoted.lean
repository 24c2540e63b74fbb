import Dimensional.Text.Hidden

/-!
# Quoted texts

A text inside a message stands in double quotes. The quote and the backslash are escaped, the usual
control characters have short names, and every other hidden character is written by its code point.
-/

namespace Dimensional.Text

/-- The digits of a code point, `\u{3a9}` for the character 0x3A9. -/
def codePoint (c : Char) : List Char :=
  ['\\', 'u', '\x7b'] ++ Nat.toDigits 16 c.toNat ++ ['\x7d']

/-- One character inside quotes. -/
def quoteChar (c : Char) : List Char :=
  match c with
  | '\x00' => ['\\', '0']
  | '\t' => ['\\', 't']
  | '\r' => ['\\', 'r']
  | '\n' => ['\\', 'n']
  | '"' => ['\\', '"']
  | '\\' => ['\\', '\\']
  | c => if isHidden c then codePoint c else [c]

/-- A text in quotes. -/
def quote (s : String) : String :=
  String.ofList ('"' :: s.toList.flatMap quoteChar ++ ['"'])

end Dimensional.Text
