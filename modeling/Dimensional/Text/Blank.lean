import Dimensional.Text.CodeRange

/-!
# Blank characters

Blanks are the characters of the Unicode property White_Space.
-/

namespace Dimensional.Text

/-- The property White_Space. -/
def whiteSpace : CodeRanges where
  ranges := #[
    (0x9, 0xD), (0x20, 0x20), (0x85, 0x85), (0xA0, 0xA0), (0x1680, 0x1680),
    (0x2000, 0x200A), (0x2028, 0x2029), (0x202F, 0x202F), (0x205F, 0x205F), (0x3000, 0x3000)]

/-- The character is a blank. -/
def isBlank (c : Char) : Bool :=
  whiteSpace.contains c

/-- The text without the blanks at its two ends. -/
def trimBlanks (cs : List Char) : List Char :=
  ((cs.dropWhile isBlank).reverse.dropWhile isBlank).reverse

/-- The pieces of a text between blanks, none of them empty. -/
def words (cs : List Char) : List (List Char) :=
  match cs with
  | [] => []
  | c :: rest =>
    if isBlank c then words rest
    else (c :: rest.takeWhile (!isBlank ·)) :: words (rest.dropWhile (!isBlank ·))
termination_by cs.length
decreasing_by
  · simp
  · have := (List.dropWhile_suffix (l := rest) (!isBlank ·)).length_le
    simp only [List.length_cons]
    omega

end Dimensional.Text
