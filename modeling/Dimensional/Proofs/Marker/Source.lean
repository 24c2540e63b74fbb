import Dimensional.Marker.Annotation
import Dimensional.Proofs.Exponent.Text
import Dimensional.Proofs.Marker.Entries
import Dimensional.Proofs.Text.Words

/-!
# Declarations as text

A dimension is written into the text of a declaration, entry by entry, with the text of every exponent in
quotes. The text is cut into the tokens of these entries again, whatever their order.
-/

namespace Dimensional.Marker

variable {c : Char} {t : Token} {cs rest after : List Char}

/-! ## Cutting off a piece -/

/-- The character is visible, and no comment starts with it. -/
def StartsPiece (c : Char) : Prop := (0x21 ≤ c.toNat ∧ c.toNat ≤ 0x7E) ∧ c ≠ '/'

instance : DecidablePred StartsPiece := fun _ => inferInstanceAs (Decidable (_ ∧ _))

theorem lexemes_of_first {ls : List Lexeme} (h : firstLexemes cs = some (ls, rest))
    (hlt : rest.length < cs.length) : lexemes cs = (lexemes rest).map (ls ++ ·) := by
  have hne : cs.isEmpty = false := by
    cases cs with
    | nil => simp at hlt
    | cons => rfl
  rw [lexemes, hne, h]
  simp [hlt]

theorem StartsPiece.isGap (h : StartsPiece c) : isGap c = false := by
  obtain ⟨⟨hlow, hhigh⟩, -⟩ := h
  have hleft : c ≠ '\u200E' := by
    rintro rfl
    contradiction
  have hright : c ≠ '\u200F' := by
    rintro rfl
    contradiction
  simp [Marker.isGap, Text.isBlank_of_printable hlow hhigh, hleft, hright]

theorem StartsPiece.comment? (h : StartsPiece c) (rest : List Char) : comment? (c :: rest) = none := by
  have hslash := h.2
  unfold Marker.comment?
  split <;> simp_all

theorem lexemes_space (rest : List Char) : lexemes (' ' :: rest) = lexemes rest := by
  have hgap : isGap ' ' = true := by simp [isGap]
  have hfirst : firstLexemes (' ' :: rest) = some ([], rest) := by
    rw [firstLexemes, if_pos hgap]
  rw [lexemes_of_first hfirst (by simp)]
  simp

theorem lexemes_bracket {l : Lexeme} (hc : StartsPiece c)
    (hlost : lostLiteral.isPrefixOf (c :: rest) = false) (h : bracket? c = some l) :
    lexemes (c :: rest) = (lexemes rest).map (l :: ·) := by
  have hfirst : firstLexemes (c :: rest) = some ([l], rest) := by
    simp [firstLexemes, hc.isGap, hc.comment?, hlost, h]
  rw [lexemes_of_first hfirst (by simp)]
  rfl

theorem lexemes_token (hc : StartsPiece c) (hbracket : bracket? c = none)
    (h : token? (c :: rest) = some (t, after)) (hlt : after.length ≤ rest.length) :
    lexemes (c :: rest) = (lexemes after).map (.token t :: ·) := by
  have hlost : lostLiteral.isPrefixOf (c :: rest) = false := by
    have hparen : c ≠ '(' := by
      rintro rfl
      contradiction
    have hlostLiteral : lostLiteral = '(' :: "/*ERROR*/)".toList := by decide
    rw [hlostLiteral, List.isPrefixOf_cons_cons]
    simp [hparen.symm]
  have hfirst : firstLexemes (c :: rest) = some ([.token t], after) := by
    simp [firstLexemes, hc.isGap, hc.comment?, hlost, hbracket, h]
  rw [lexemes_of_first hfirst (by simp only [List.length_cons]; omega)]
  rfl

/-! ## Strings -/

/-- The literal that a text is in quotes, if nothing in it has to be escaped. -/
def Literal.quoting (text : String) : Literal where
  written := "\"" ++ text ++ "\""
  value := .string text.toList

variable {text : String}

theorem quotedStep_of_isTextChar (h : Exponent.IsTextChar c) (rest : List Char) :
    quotedStep .text (c :: rest) = some (some c, rest) := by
  have hreturn : c ≠ '\r' := by
    rintro rfl
    simp [Exponent.IsTextChar] at h
  have hescape : c ≠ '\\' := by
    rintro rfl
    simp [Exponent.IsTextChar] at h
  unfold quotedStep
  split <;> simp_all [Quoting.admits]

theorem quoted_of_isTextChar (h : ∀ c ∈ cs, Exponent.IsTextChar c) (rest : List Char) :
    quoted .text (cs ++ '"' :: rest) = some (cs, rest) := by
  induction cs with
  | nil => rw [List.nil_append, quoted]
  | cons c cs ih =>
    rw [List.forall_mem_cons] at h
    have hquote : c ≠ '"' := by
      rintro rfl
      simp [Exponent.IsTextChar] at h
    rw [List.cons_append, quoted, quotedStep_of_isTextChar h.1]
    · simp [ih h.2]
    · exact fun rest' heq => hquote (List.cons.inj heq).1

theorem literal?_of_string {value : Value} (h : stringLiteral cs = some (value, rest)) :
    literal? cs = some ({ written := String.ofList (cs.take (cs.length - rest.length)), value }, rest) := by
  rw [literal?, h]
  rfl

theorem token?_quoted (h : ∀ c ∈ text.toList, Exponent.IsTextChar c) (hrest : skipSuffix rest = rest) :
    token? ('"' :: (text.toList ++ '"' :: rest)) = some (.literal (.quoting text), rest) := by
  have hsplit : '"' :: (text.toList ++ '"' :: rest) = ("\"" ++ text ++ "\"").toList ++ rest := by simp
  have hstring : stringLiteral ('"' :: (text.toList ++ '"' :: rest)) = some (.string text.toList, rest) := by
    change (quoted .text (text.toList ++ '"' :: rest)).map _ = _
    rw [quoted_of_isTextChar h, Option.map_some]
    exact congrArg (fun after => some (Value.string text.toList, after)) hrest
  have hliteral := literal?_of_string hstring
  rw [hsplit, List.length_append, Nat.add_sub_cancel, List.take_left, String.ofList_toList] at hliteral
  rw [token?, hsplit, hliteral]
  rfl

/-! ## Entries -/

variable (print : Exponent → String) (v : Dimension)

/-- An entry with the text of its exponent for each of some base dimensions, with commas. -/
def assign (bs : List BaseDimension) : List (WrittenEntry × Option Bool) :=
  bs.map fun b => (⟨.slot b, false, [], .quoting (print (v.exponent b))⟩, some false)

/-- The text of these entries. -/
def entriesText : List BaseDimension → String
  | [] => ""
  | b :: bs => slotWord b ++ " = \"" ++ print (v.exponent b) ++ "\", " ++ entriesText bs

theorem lexemes_slotWord (b : BaseDimension) (rest : List Char) :
    lexemes ((slotWord b).toList ++ ' ' :: rest) =
      (lexemes (' ' :: rest)).map (.token (.word (slotWord b)) :: ·) := by
  cases b <;> exact lexemes_token (by decide) rfl rfl (by simp)

theorem lexemes_mark_space (hc : StartsPiece c) (hbracket : bracket? c = none)
    (h : token? (c :: ' ' :: rest) = some (.mark c false, ' ' :: rest)) :
    lexemes (c :: ' ' :: rest) = (lexemes rest).map (.token (.mark c false) :: ·) := by
  rw [lexemes_token hc hbracket h (le_refl _), lexemes_space]

theorem lexemes_entries (hprint : ∀ e, ∀ c ∈ (print e).toList, Exponent.IsTextChar c)
    (bs : List BaseDimension) (rest : List Char) :
    lexemes ((entriesText print v bs).toList ++ rest) =
      (lexemes rest).map ((writeAll (assign print v bs)).map .token ++ ·) := by
  induction bs with
  | nil => simp [entriesText, assign, writeAll]
  | cons b bs ih =>
    have hsplit : (entriesText print v (b :: bs)).toList ++ rest = (slotWord b).toList ++
        ' ' :: '=' :: ' ' :: '"' :: ((print (v.exponent b)).toList ++
          '"' :: ',' :: ' ' :: ((entriesText print v bs).toList ++ rest)) := by
      simp [entriesText]
    have hcomma : skipSuffix (',' :: ' ' :: ((entriesText print v bs).toList ++ rest)) =
        ',' :: ' ' :: ((entriesText print v bs).toList ++ rest) := rfl
    have hliteral := token?_quoted (hprint (v.exponent b)) hcomma
    -- one entry is a name, the equals sign, a string and a comma
    rw [hsplit, lexemes_slotWord, lexemes_space, lexemes_mark_space (by decide) rfl rfl,
      lexemes_token (by decide) rfl hliteral (by simp; omega), lexemes_mark_space (by decide) rfl rfl, ih]
    simp only [Option.map_map]
    rfl

/-! ## Declarations -/

/-- The text of a declaration with these entries in its only attribute. -/
def source (bs : List BaseDimension) : String :=
  "#[dimension(" ++ entriesText print v bs ++ ")] struct Marker;"

example : source Exponent.stored (.base .mass) [.mass, .time] =
    "#[dimension(mass = \"1/1\", time = \"0/1\", )] struct Marker;" := by
  decide

/-- A declaration with some entries in its only attribute. -/
def annotated (ws : List (WrittenEntry × Option Bool)) : Declaration where
  name := { text := "Marker" }
  attributes := [{
    rooted := false
    path := [{ text := "dimension" }]
    content := .arguments (writeAll ws) }]

theorem nest_tokens (waiting : List (Delimiter × List Token)) (read tokens : List Token)
    (ls : List Lexeme) :
    nest waiting read (tokens.map .token ++ ls) = nest waiting (tokens.reverse ++ read) ls := by
  induction tokens generalizing read with
  | nil => rfl
  | cons t tokens ih =>
    rw [List.map_cons, List.cons_append, nest, ih]
    simp

theorem lexemes_head (hrest : lostLiteral.isPrefixOf ('(' :: rest) = false) :
    lexemes ("#[dimension(".toList ++ rest) = (lexemes rest).map
      ([.token (.mark '#' false), .opening .bracket, .token (.word "dimension"), .opening .parenthesis] ++ ·) := by
  have hsplit : "#[dimension(".toList ++ rest = '#' :: '[' :: ("dimension".toList ++ '(' :: rest) := by simp
  have hword : lexemes ("dimension".toList ++ '(' :: rest) =
      (lexemes ('(' :: rest)).map (.token (.word "dimension") :: ·) :=
    lexemes_token (by decide) rfl rfl (by simp)
  rw [hsplit, lexemes_token (by decide) rfl (by rfl) (le_refl _), lexemes_bracket (by decide) rfl rfl,
    hword, lexemes_bracket (by decide) hrest rfl]
  simp only [Option.map_map]
  rfl

theorem lexemes_tail : lexemes ")] struct Marker;".toList =
    some [.closing .parenthesis, .closing .bracket, .token (.word "struct"), .token (.word "Marker"),
      .token (.mark ';' false)] := by
  have hsplit : ")] struct Marker;".toList =
      ')' :: ']' :: ' ' :: ("struct".toList ++ ' ' :: ("Marker".toList ++ [';'])) := by decide
  have hstruct : lexemes ("struct".toList ++ ' ' :: ("Marker".toList ++ [';'])) =
      (lexemes (' ' :: ("Marker".toList ++ [';']))).map (.token (.word "struct") :: ·) :=
    lexemes_token (by decide) rfl rfl (by simp)
  have hname : lexemes ("Marker".toList ++ [';']) = (lexemes [';']).map (.token (.word "Marker") :: ·) :=
    lexemes_token (by decide) rfl rfl (by simp)
  have hend : lexemes [';'] = (lexemes []).map (.token (.mark ';' false) :: ·) :=
    lexemes_token (by decide) rfl rfl (le_refl _)
  rw [hsplit, lexemes_bracket (by decide) rfl rfl, lexemes_bracket (by decide) rfl rfl, lexemes_space,
    hstruct, lexemes_space, hname, hend, lexemes]
  rfl

theorem not_lostLiteral (bs : List BaseDimension) :
    lostLiteral.isPrefixOf ('(' :: ((entriesText print v bs).toList ++ ")] struct Marker;".toList)) = false := by
  -- a key or the closing parenthesis follows the one that opens the group
  cases bs with
  | nil => rfl
  | cons b bs =>
    have hsplit : (entriesText print v (b :: bs)).toList = (slotWord b).toList ++
        (" = \"" ++ print (v.exponent b) ++ "\", " ++ entriesText print v bs).toList := by
      simp [entriesText]
    rw [hsplit]
    cases b <;> rfl

theorem tokensOf_of_lexemes {text : String} {ls : List Lexeme} {tokens : List Token}
    (htext : text.toList = '#' :: cs) (hlexemes : lexemes ('#' :: cs) = some ls)
    (hnest : nest [] [] ls = some tokens) : tokensOf text = .ok tokens := by
  simp [tokensOf, htext, hlexemes, hnest]

variable {print}

theorem tokensOf_source (hprint : ∀ e, ∀ c ∈ (print e).toList, Exponent.IsTextChar c)
    (bs : List BaseDimension) :
    tokensOf (source print v bs) = .ok [.mark '#' false,
      .group .bracket [.word "dimension", .group .parenthesis (writeAll (assign print v bs))],
      .word "struct", .word "Marker", .mark ';' false] := by
  have htext : (source print v bs).toList =
      "#[dimension(".toList ++ ((entriesText print v bs).toList ++ ")] struct Marker;".toList) := by
    simp [source]
  have hlexemes := lexemes_head (not_lostLiteral print v bs)
  rw [lexemes_entries print v hprint, lexemes_tail, Option.map_some, Option.map_some] at hlexemes
  refine tokensOf_of_lexemes htext hlexemes ?_
  simp only [List.cons_append, List.nil_append, nest, nest_tokens]
  simp

/-- The text is read as the declaration with its entries. -/
theorem read_source (hprint : ∀ e, ∀ c ∈ (print e).toList, Exponent.IsTextChar c)
    (bs : List BaseDimension) :
    Declaration.read (source print v bs) = .ok (annotated (assign print v bs)) := by
  rw [Declaration.read, tokensOf_source v hprint]
  rfl

end Dimensional.Marker
