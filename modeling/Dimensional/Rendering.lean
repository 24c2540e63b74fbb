/-!
# Texts written piece by piece

A text is written in pieces, and a fault may cut it off. Comparing such a text with a given one needs
no whole text: each piece is taken off the front of what is left of the given text, and the first
piece that does not fit settles the answer.
-/

namespace Dimensional

/-- The pieces that were written, and the reason why writing stopped early, if it did. -/
structure Rendering (ε : Type) where
  pieces : List String
  fault : Option ε := none
deriving DecidableEq

namespace Rendering

variable {ε : Type}

/-- Nothing. -/
def empty : Rendering ε where
  pieces := []

/-- One piece. -/
def piece (s : String) : Rendering ε where
  pieces := [s]

/-- Stops before anything is written. -/
def stop (e : ε) : Rendering ε where
  pieces := []
  fault := some e

/-- One text after the other. Nothing follows a fault. -/
def append (r s : Rendering ε) : Rendering ε :=
  match r.fault with
  | some e => { pieces := r.pieces, fault := some e }
  | none => { pieces := r.pieces ++ s.pieces, fault := s.fault }

instance : Append (Rendering ε) := ⟨append⟩

/-- The texts one after the other. -/
def concat : List (Rendering ε) → Rendering ε
  | [] => empty
  | r :: rs => r ++ concat rs

/-- The texts one after the other, with a separator written before each but the first. -/
def intercalate (separator : String) : List (Rendering ε) → Rendering ε
  | [] => empty
  | r :: rs => r ++ concat (rs.map (piece separator ++ ·))

/-- All that was written, up to the fault if there is one. -/
def written (r : Rendering ε) : String :=
  String.join r.pieces

/-- The whole text, if nothing cut it off. -/
def text (r : Rendering ε) : Except ε String :=
  match r.fault with
  | some e => .error e
  | none => .ok r.written

/-- What is left of a text after a piece at its front, if the piece is there. -/
def takeOff : List Char → List Char → Option (List Char)
  | [], rest => some rest
  | _ :: _, [] => none
  | c :: cs, d :: ds => if c = d then takeOff cs ds else none

/-- What is left of a text after the pieces at its front, if all of them are there. -/
def takeOffAll : List String → List Char → Option (List Char)
  | [], rest => some rest
  | s :: pieces, rest => (takeOff s.toList rest).bind (takeOffAll pieces)

/-- Whether the text is `t`. A fault counts only if all that was written before it agrees with `t`. -/
def matchesText (r : Rendering ε) (t : String) : Except ε Bool :=
  match takeOffAll r.pieces t.toList with
  | none => .ok false
  | some rest =>
    match r.fault with
    | some e => .error e
    | none => .ok rest.isEmpty

end Rendering

end Dimensional
