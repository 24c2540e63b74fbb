import Dimensional.Proofs.Quantity.Reading

/-!
# What a text is read as

A text is read if it is made of two words, the text of a number and a known symbol, whatever blanks stand
around them. The two readers refuse the same texts for the same reasons, and the one that is asked for a
dimension also refuses a symbol of another one. A refusal is one warning on the log.
-/

namespace Dimensional

open Text Registry

/-- The text is made of the text of a number and a known symbol. -/
def WritesQuantity (t : String) (x : Float) (v : Dimension) : Prop :=
  ∃ number symbol, Consists [number, symbol] t.toList ∧ Number.Writes number x ∧
    findSymbol (.ofList symbol) = some v

/-- What is wrong with a text that writes no quantity. The count of words is looked at first, then the
number, then the symbol. -/
inductive IsWrong (t : String) : ReadError → Prop where
  | format {ws : List (List Char)} (hws : Consists ws t.toList) (hlen : ws.length ≠ 2) :
    IsWrong t (.format t)
  | number {number symbol : List Char} (hws : Consists [number, symbol] t.toList)
      (hx : ∀ x, ¬ Number.Writes number x) : IsWrong t (.number (.ofList number))
  | unit {number symbol : List Char} {x : Float} (hws : Consists [number, symbol] t.toList)
      (hx : Number.Writes number x) (hsymbol : ¬ IsKnown (.ofList symbol)) :
    IsWrong t (.unit (.ofList symbol))

/-- The reason with the text `t` in place of a quoted one. -/
def ReadError.quoting (t : String) : ReadError → ReadError
  | .format _ => .format t
  | e => e

/-- The log holds a single record. It is a warning, and it reports that `t` was refused for the reason `e`. -/
def WarnsOnce (t : String) (e : ReadError) (log : List LogRecord) : Prop :=
  ∃ r, log = [r] ∧ r.level = .warn ∧
    r.message = "rejected quantity string " ++ quote t ++ ": " ++ e.message

/-- The log holds a single record. It is no warning, and it says which number `t` was read as. -/
def NotesOnce (t : String) (x : Float) (log : List LogRecord) : Prop :=
  ∃ r, log = [r] ∧ r.level = .debug ∧ r.message = "parsed " ++ quote t ++ " as " ++ Number.text {} x

variable {t t' : String} {ws : List (List Char)}

/-! ## The shared splitter -/

theorem writesQuantity_iff {x : Float} {v : Dimension} : WritesQuantity t x v ↔ readParts t = .ok (x, v) := by
  simp only [readParts_eq_ok, words_eq_iff, Number.read?_eq_some]
  rfl

theorem readParts_of_isWrong {e : ReadError} (h : IsWrong t e) : readParts t = .error e := by
  cases h with
  | format hws hlen =>
    apply readParts_of_not_pair
    intro number symbol hpair
    rw [words_eq_iff.mpr hws] at hpair
    rw [hpair] at hlen
    contradiction
  | @number number symbol hws hx =>
    have hnone : Number.read? number = none := by
      rw [Option.eq_none_iff_forall_ne_some]
      exact fun x hread => hx x (Number.read?_eq_some.mp hread)
    rw [readParts, words_eq_iff.mpr hws]
    simp only [hnone]
  | unit hws hx hsymbol =>
    rw [readParts_of_words (words_eq_iff.mpr hws) (Number.read?_eq_some.mpr hx),
      Option.not_isSome_iff_eq_none.mp hsymbol]

theorem isWrong_of_readParts {e : ReadError} (h : readParts t = .error e) : IsWrong t e := by
  have hws := consists_words t.toList
  unfold readParts at h
  split at h
  · rename_i number symbol hwords
    rw [hwords] at hws
    split at h
    · rename_i hnone
      cases h
      exact .number hws fun x hx => by rw [Number.read?_eq_some.mpr hx] at hnone; contradiction
    · rename_i x hx
      split at h
      · rename_i hnone
        cases h
        exact .unit hws (Number.read?_eq_some.mp hx) (Option.not_isSome_iff_eq_none.mpr hnone)
      · contradiction
  · rename_i hwords
    cases h
    refine .format hws fun hlen => ?_
    obtain ⟨number, symbol, hpair⟩ := List.length_eq_two.mp hlen
    exact hwords _ _ hpair

theorem isWrong_iff {e : ReadError} : IsWrong t e ↔ readParts t = .error e :=
  ⟨readParts_of_isWrong, isWrong_of_readParts⟩

theorem readParts_respaced (h : Consists ws t.toList) (h' : Consists ws t'.toList) :
    readParts t' = (readParts t).mapError (.quoting t') := by
  unfold readParts
  rw [words_eq_iff.mpr h, words_eq_iff.mpr h']
  split
  · split
    · rfl
    · split <;> rfl
  · rfl

/-! ## The readers -/

theorem readValue_fst (t : String) : (readValue t).1 = (readParts t).map Prod.fst := by
  unfold readValue
  split <;> rename_i h <;> rw [h] <;> rfl

theorem warnsOnce_readValue {e : ReadError} (h : (readValue t).1 = .error e) :
    WarnsOnce t e (readValue t).2 := by
  unfold readValue at h ⊢
  split at h
  · contradiction
  · cases h
    exact ⟨_, rfl, rfl, rfl⟩

theorem notesOnce_readValue {x : Float} (h : (readValue t).1 = .ok x) : NotesOnce t x (readValue t).2 := by
  unfold readValue at h ⊢
  split at h
  · cases h
    exact ⟨_, rfl, rfl, rfl⟩
  · contradiction

theorem warnsOnce_readQuantity {d : DimensionExpr} {e : ReadError} (h : (readQuantity d t).1 = .error e) :
    WarnsOnce t e (readQuantity d t).2 := by
  unfold readQuantity at h ⊢
  split at h
  · contradiction
  · cases h
    exact ⟨_, rfl, rfl, rfl⟩

theorem readQuantity_silent {d : DimensionExpr} {q : Quantity d} (h : (readQuantity d t).1 = .ok q) :
    (readQuantity d t).2 = [] := by
  unfold readQuantity at h ⊢
  split at h
  · rfl
  · contradiction

theorem checkQuantity_eq_error {d : DimensionExpr} {w : Dimension} (hw : d.dimension = .ok w)
    {e : ReadError} :
    checkQuantity d t = .error e ↔ readParts t = .error e ∨
      ∃ x v, readParts t = .ok (x, v) ∧ ¬ w.Matches v ∧ e = .dimension (.incompatible w v) := by
  cases hparts : readParts t with
  | error e' =>
    rw [checkQuantity_of_error hparts]
    simp
  | ok parts =>
    obtain ⟨x, v⟩ := parts
    rw [checkQuantity_of_ok hw hparts]
    by_cases hm : w.Matches v
    · simp [hm]
    · simp [hm, eq_comm]

theorem checkQuantity_respaced {d : DimensionExpr} {w : Dimension} (hw : d.dimension = .ok w)
    (h : Consists ws t.toList) (h' : Consists ws t'.toList) :
    checkQuantity d t' = (checkQuantity d t).mapError (.quoting t') := by
  have hrespaced := readParts_respaced h h'
  cases hparts : readParts t with
  | error e =>
    rw [hparts] at hrespaced
    rw [checkQuantity_of_error hrespaced, checkQuantity_of_error hparts]
    rfl
  | ok parts =>
    rw [hparts] at hrespaced
    rw [checkQuantity_of_ok hw hrespaced, checkQuantity_of_ok hw hparts]
    split <;> rfl

/-- A text is read as a number exactly if it writes one with a known symbol, and as a quantity if that
symbol has the dimension asked for. The first thing that is wrong with any other text is the reason for its
refusal, for both readers, and a symbol of another dimension is the last thing looked at. Blanks decide
nothing but the text that is quoted. A refusal by either reader leaves one record on the log, a warning that
quotes the text and gives the reason. A number that is read is noted there below that level, and a quantity
that is read leaves nothing. -/
theorem readValue_readQuantity_outcome {d : DimensionExpr} {w : Dimension} (hw : d.dimension = .ok w)
    (t : String) :
    (∀ x, (readValue t).1 = .ok x ↔ ∃ v, WritesQuantity t x v) ∧
    (∀ e, (readValue t).1 = .error e ↔ IsWrong t e) ∧
    (∀ q, (readQuantity d t).1 = .ok q ↔ ∃ v, WritesQuantity t q.value v ∧ w.Matches v) ∧
    (∀ e, (readQuantity d t).1 = .error e ↔ IsWrong t e ∨
      ∃ x v, WritesQuantity t x v ∧ ¬ w.Matches v ∧ e = .dimension (.incompatible w v)) ∧
    (∀ t' ws, Consists ws t.toList → Consists ws t'.toList →
      (readValue t').1 = (readValue t).1.mapError (.quoting t') ∧
        (readQuantity d t').1 = (readQuantity d t).1.mapError (.quoting t')) ∧
    (∀ e, (readValue t).1 = .error e → WarnsOnce t e (readValue t).2) ∧
    (∀ e, (readQuantity d t).1 = .error e → WarnsOnce t e (readQuantity d t).2) ∧
    (∀ x, (readValue t).1 = .ok x → NotesOnce t x (readValue t).2) ∧
    ∀ q, (readQuantity d t).1 = .ok q → (readQuantity d t).2 = [] := by
  refine ⟨fun x => ?_, fun e => ?_, fun q => ?_, fun e => ?_, fun t' ws h h' => ⟨?_, ?_⟩,
    fun _ => warnsOnce_readValue, fun _ => warnsOnce_readQuantity, fun _ => notesOnce_readValue,
    fun _ => readQuantity_silent⟩
  · simp only [readValue_fst, Outcome.map_eq_ok, writesQuantity_iff, Prod.exists]
    constructor
    · rintro ⟨_, v, hparts, rfl⟩
      exact ⟨v, hparts⟩
    · rintro ⟨v, hparts⟩
      exact ⟨x, v, hparts, rfl⟩
  · rw [readValue_fst, Outcome.map_eq_error, isWrong_iff]
  · simp only [readQuantity_fst, checkQuantity_eq_ok hw, writesQuantity_iff]
  · simp only [readQuantity_fst, checkQuantity_eq_error hw, isWrong_iff, writesQuantity_iff]
  · rw [readValue_fst, readValue_fst, readParts_respaced h h']
    cases readParts t <;> rfl
  · rw [readQuantity_fst, readQuantity_fst, checkQuantity_respaced hw h h']

theorem readValue_readQuantity_outcome_joule :
    let v : Dimension := { length := .whole 2, mass := .whole 1, time := .whole (-2) }
    let w : Dimension := { length := .whole 1 }
    let x : Float := .ofBits 0x4004000000000000
    let t := "\t25e-1\u00a0J"
    Dim.energy.dimension = .ok v ∧ Dim.length.dimension = .ok w ∧ WritesQuantity t x v ∧
      (readValue t).1 = .ok x ∧ (readQuantity Dim.energy t).1 = .ok ⟨x⟩ ∧
      (readQuantity Dim.energy t).2 = [] ∧
      (readQuantity Dim.length t).1 = .error (.dimension (.incompatible w v)) ∧
      (∃ r, (readQuantity Dim.length t).2 = [r] ∧ r.level = .warn ∧
        r.message = "rejected quantity string \"\\t25e-1\\u\x7ba0\x7dJ\": incompatible dimensions: " ++
          "expected [L=1/1, M=0/1, T=0/1, I=0/1, Θ=0/1, N=0/1, J=0/1], " ++
          "found [L=2/1, M=1/1, T=-2/1, I=0/1, Θ=0/1, N=0/1, J=0/1]") ∧
      (readQuantity Dim.energy "25e-1 J").1 = .ok ⟨x⟩ := by
  intro v w x t
  have hv : Dim.energy.dimension = .ok v := by decide +kernel
  have hw : Dim.length.dimension = .ok w := by decide +kernel
  have hwrites : WritesQuantity t x v := writesQuantity_iff.mpr (by decide +kernel)
  obtain ⟨hvalue, -, henergy, -, hrespaced, -, -, -, hsilent⟩ := readValue_readQuantity_outcome hv t
  obtain ⟨-, -, -, hlength, -, -, hwarns, -, -⟩ := readValue_readQuantity_outcome hw t
  have hq := (henergy ⟨x⟩).mpr ⟨v, hwrites, by decide +kernel⟩
  have he := (hlength (.dimension (.incompatible w v))).mpr (.inr ⟨x, v, hwrites, by decide +kernel, rfl⟩)
  have hagain := (hrespaced "25e-1 J" _ (consists_words _) (words_eq_iff.mp (by decide +kernel))).2
  rw [hq] at hagain
  obtain ⟨r, hlog, hlevel, hmessage⟩ := hwarns _ he
  refine ⟨hv, hw, hwrites, (hvalue x).mpr ⟨v, hwrites⟩, hq, hsilent _ hq, he, ⟨r, hlog, hlevel, ?_⟩, hagain⟩
  rw [hmessage]
  decide +kernel

end Dimensional
