/-!
# Values in words

A description names a value and its parts. It is written on one line, or with every part on a line of
its own, indented by four spaces and followed by a comma.
-/

namespace Dimensional

/-- A value in words. -/
inductive Description where
  | plain (text : String)
  | wrapped (name : String) (part : Description)
  | record (name : String) (fields : List (String × String))

namespace Description

/-- The description on one line. -/
def oneLine : Description → String
  | plain text => text
  | wrapped name part => name ++ "(" ++ part.oneLine ++ ")"
  | record name fields =>
    name ++ " \x7b " ++ ", ".intercalate (fields.map fun (field, text) => field ++ ": " ++ text) ++ " \x7d"

/-- A part on its own lines: indented, with a comma behind it. -/
def indented : List String → List String
  | [] => []
  | [last] => ["    " ++ last ++ ","]
  | line :: rest => ("    " ++ line) :: indented rest

/-- The lines of the description with its parts on lines of their own. -/
def lines : Description → List String
  | plain text => [text]
  | wrapped name part => [name ++ "("] ++ indented part.lines ++ [")"]
  | record name fields =>
    [name ++ " \x7b"] ++ fields.flatMap (fun (field, text) => indented [field ++ ": " ++ text]) ++ ["\x7d"]

/-- The description with its parts on lines of their own. -/
def manyLines (d : Description) : String :=
  "\n".intercalate d.lines

end Description

end Dimensional
