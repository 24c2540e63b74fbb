import Dimensional.Marker.Complaint

/-!
# Taking tokens

Each function takes one thing off the front of some tokens, or says what should have stood there.
-/

namespace Dimensional.Marker

/-- The words that are no names. -/
def keywords : List String :=
  ["_", "abstract", "as", "async", "await", "become", "box", "break", "const", "continue", "crate",
    "do", "dyn", "else", "enum", "extern", "false", "final", "fn", "for", "if", "impl", "in", "let",
    "loop", "macro", "match", "mod", "move", "mut", "override", "priv", "pub", "ref", "return",
    "Self", "self", "static", "struct", "super", "trait", "true", "try", "type", "typeof", "unsafe",
    "unsized", "use", "virtual", "where", "while", "yield"]

/-- The name is a keyword. One with the mark `r#` is none. -/
def Name.isKeyword (n : Name) : Bool :=
  !n.raw && n.text ∈ keywords

/-- The complaint that nothing wanted stands at the front of the tokens. -/
def notFound (wanted : List String) (tokens : List Token) : Complaint :=
  .expected wanted tokens.isEmpty

/-- A name that is no keyword. -/
def takeName : List Token → Except Complaint (Name × List Token)
  | .name n :: rest => if n.isKeyword then .error (.keyword n.text) else .ok (n, rest)
  | tokens => .error (notFound ["identifier"] tokens)

/-- A lifetime, of which nothing is kept: an apostrophe and a name. -/
def takeLifetime : List Token → Except Complaint (Unit × List Token)
  | .mark '\'' _ :: .name _ :: rest => .ok ((), rest)
  | tokens => .error (notFound ["lifetime"] tokens)

/-- The tokens behind some marks, if these stand at the front and are joint. -/
def skipMarks? : List Char → List Token → Option (List Token)
  | [c], .mark d _ :: rest => if c = d then some rest else none
  | c :: cs, .mark d true :: rest => if c = d then skipMarks? cs rest else none
  | _, _ => none

/-- The tokens behind some marks. Their absence is reported alike before the end and at it. -/
def takeMarks (marks : String) (tokens : List Token) : Except Complaint (List Token) :=
  match skipMarks? marks.toList tokens with
  | some rest => .ok rest
  | none => .error (.expected ["`" ++ marks ++ "`"] false)

/-- The tokens behind a comma, if one stands at the front. -/
def skipComma : List Token → List Token
  | .mark ',' _ :: rest => rest
  | tokens => tokens

/-! ## Constants -/

/-- A value that is written out: a literal, a number with a minus before it, or a truth value. -/
inductive Constant where
  | integer (n : Int)
  | string (text : List Char) (literal : Literal)
  | other
deriving DecidableEq

/-- The value of a literal. -/
def Constant.ofLiteral (l : Literal) : Constant :=
  match l.value with
  | .integer n _ => .integer n
  | .string text => .string text l
  | .float => .other
  | .other => .other

/-- The value of a number with a minus before it. Nothing else takes one. -/
def Constant.ofNegated? (l : Literal) : Option Constant :=
  match l.value with
  | .integer n _ => some (.integer (-n))
  | .float => some .other
  | .string _ => none
  | .other => none

/-- The constant at the front of the tokens, and the rest. -/
def skipConstant? : List Token → Option (Constant × List Token)
  | .literal l :: rest => some (.ofLiteral l, rest)
  | .name n :: rest => if n ∈ [{ text := "true" }, { text := "false" }] then some (.other, rest) else none
  | .mark '-' _ :: .literal l :: rest => (Constant.ofNegated? l).map (·, rest)
  | _ => none

/-- A constant. -/
def takeConstant (tokens : List Token) : Except Complaint (Constant × List Token) :=
  match skipConstant? tokens with
  | some found => .ok found
  | none => .error (notFound ["literal"] tokens)

/-- A string literal. -/
def takeString (tokens : List Token) : Except Complaint (Literal × List Token) :=
  match skipConstant? tokens with
  | some (.string _ l, rest) => .ok (l, rest)
  | _ => .error (notFound ["string literal"] tokens)

/-! ## What is taken -/

/-- The rest is what stands behind one or more of the tokens. -/
def IsBehind (rest tokens : List Token) : Prop :=
  ∃ token front, tokens = token :: (front ++ rest)

variable {tokens rest : List Token}

theorem IsBehind.cons (token : Token) : IsBehind rest (token :: rest) :=
  ⟨token, [], rfl⟩

theorem IsBehind.cons_cons (token second : Token) : IsBehind rest (token :: second :: rest) :=
  ⟨token, [second], rfl⟩

theorem IsBehind.length_lt (h : IsBehind rest tokens) : rest.length < tokens.length := by
  obtain ⟨token, front, rfl⟩ := h
  rw [List.length_cons, List.length_append]
  omega

theorem takeName_eq_ok {n : Name} (h : takeName tokens = .ok (n, rest)) : tokens = .name n :: rest := by
  unfold takeName at h
  split at h
  · split at h <;> simp_all
  · simp at h

theorem isBehind_of_takeName {n : Name} (h : takeName tokens = .ok (n, rest)) : IsBehind rest tokens := by
  rw [takeName_eq_ok h]
  exact .cons _

theorem isBehind_of_takeLifetime (h : takeLifetime tokens = .ok ((), rest)) : IsBehind rest tokens := by
  unfold takeLifetime at h
  split at h
  · cases h
    exact .cons_cons _ _
  · contradiction

theorem isBehind_of_skipMarks? {cs : List Char} (h : skipMarks? cs tokens = some rest) :
    IsBehind rest tokens := by
  fun_induction skipMarks? cs tokens with
  | case1 =>
    cases h
    exact .cons _
  | case3 _ _ _ _ ih =>
    obtain ⟨token, front, rfl⟩ := ih h
    exact ⟨_, token :: front, rfl⟩
  | case2 | case4 | case5 => contradiction

theorem isBehind_of_takeMarks {marks : String} (h : takeMarks marks tokens = .ok rest) :
    IsBehind rest tokens := by
  unfold takeMarks at h
  split at h
  · next h' =>
    cases h
    exact isBehind_of_skipMarks? h'
  · contradiction

theorem isBehind_of_skipConstant? {c : Constant} (h : skipConstant? tokens = some (c, rest)) :
    IsBehind rest tokens := by
  unfold skipConstant? at h
  split at h
  · cases h
    exact .cons _
  · split at h
    · cases h
      exact .cons _
    · contradiction
  · obtain ⟨_, -, h⟩ := Option.map_eq_some_iff.mp h
    cases h
    exact .cons_cons _ _
  · contradiction

theorem isBehind_of_takeConstant {c : Constant} (h : takeConstant tokens = .ok (c, rest)) :
    IsBehind rest tokens := by
  unfold takeConstant at h
  split at h
  · next h' =>
    cases h
    exact isBehind_of_skipConstant? h'
  · contradiction

theorem isBehind_of_takeString {l : Literal} (h : takeString tokens = .ok (l, rest)) :
    IsBehind rest tokens := by
  unfold takeString at h
  split at h
  · next h' =>
    cases h
    exact isBehind_of_skipConstant? h'
  · contradiction

end Dimensional.Marker
