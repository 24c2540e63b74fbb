import Dimensional.Proofs.Marker.Implementation

/-!
# Signs that overflow

The signs of an exponent are worked out one after the other in stored numbers, of which the least has no
negative. A declaration that asks for it is neither accepted nor refused, even if the exponent as a whole
could be stored. Nothing else stops the derivation.
-/

namespace Dimensional.Marker

open Outcome

/-! ## Signs -/

variable {tokens : List Token} {negative : Bool} {q : Fraction} {f : Fault}

theorem settleSigns_eq_error {n d : Int} :
    settleSigns n d = .error f ↔ f = .negationOverflow ∧ d < 0 ∧ (n = -2 ^ 31 ∨ d = -2 ^ 31) := by
  unfold settleSigns
  split_ifs with hneg
  · simp only [bind_eq_error, Exponent.negate_eq_error, Exponent.negate_eq_ok, hneg, true_and]
    constructor
    · rintro (⟨rfl, hmin⟩ | ⟨_, -, ⟨rfl, hmin⟩ | ⟨_, -, h⟩⟩)
      · exact ⟨rfl, .inl hmin⟩
      · exact ⟨rfl, .inr hmin⟩
      · contradiction
    · rintro ⟨rfl, hmin⟩
      by_cases hnmin : n = -2 ^ 31
      · exact .inl ⟨rfl, hnmin⟩
      · exact .inr ⟨-n, ⟨hnmin, rfl⟩, .inl ⟨rfl, hmin.resolve_left hnmin⟩⟩
  · simp [hneg]

theorem signedExponent_eq_error : signedExponent negative q = .error f ↔
    f = .negationOverflow ∧ (q.den = -2 ^ 31 ∨ q.num = -2 ^ 31 ∧ (negative = true ∨ q.den < 0)) := by
  rw [signedExponent_eq_error_iff]
  cases negative with
  | false =>
    rw [Fraction.settle_false, settleSigns_eq_error, Bool.false_eq_true, false_or]
    exact and_congr_right fun _ => by omega
  | true =>
    have hlt := q.num_stored.2
    simp only [Fraction.settle_true, bind_eq_error, Exponent.negate_eq_error, Exponent.negate_eq_ok,
      settleSigns_eq_error, true_or, and_true]
    constructor
    · rintro (⟨rfl, hmin⟩ | ⟨_, ⟨-, rfl⟩, rfl, -, hmin | hmin⟩)
      · exact ⟨rfl, .inr hmin⟩
      · omega
      · exact ⟨rfl, .inl hmin⟩
    · rintro ⟨rfl, hmin⟩
      by_cases hnmin : q.num = -2 ^ 31
      · exact .inl ⟨rfl, hnmin⟩
      · have hdmin := hmin.resolve_right hnmin
        exact .inr ⟨-q.num, ⟨hnmin, rfl⟩, rfl, by omega, .inr hdmin⟩

/-! ## Values -/

/-- The numbers of a value can be stored, but not every negative that its signs ask for. -/
inductive WrittenValue.Overflows (v : WrittenValue) : Prop where
  /-- A fraction over the least number. -/
  | denominator {n : Int} (hwrites : v.literal.Writes n (-2 ^ 31)) (hn : IsStored n)
    (hminuses : v.minuses.length ≤ 1)
  /-- The least number behind a minus, or over a negative number. -/
  | numerator {d : Int} (hwrites : v.literal.Writes (-2 ^ 31) d) (hd : IsStored d) (hzero : d ≠ 0)
    (hminuses : v.minuses.length ≤ 1) (hsigns : v.minuses ≠ [] ∨ d < 0)
  /-- The least number with the minus that is part of it, behind another minus. -/
  | integer {suffixed : Bool} (hvalue : v.literal.value = .integer (2 ^ 31) suffixed)
    (hminuses : v.minuses.length = 2)

theorem fraction_ne_fault (text : List Char) (f : Fault) : fraction text ≠ .error (.fault f) := by
  rw [ne_eq, fraction_eq_error]
  rintro (⟨h, -⟩ | ⟨h, -⟩) <;> contradiction

theorem Constant.fraction_ne_fault (c : Constant) (f : Fault) : c.fraction ≠ .error (.fault f) := by
  cases c with
  | integer n =>
    rw [fraction]
    split_ifs <;> simp
  | string text => exact Marker.fraction_ne_fault text f
  | other => simp [fraction]

theorem takeExponent_eq_fault_iff_fraction :
    takeExponent tokens = .error (.fault f) ↔ ∃ (q : Fraction) (rest : List Token),
      (∃ c, takeConstant (skipMinus tokens).2 = .ok (c, rest) ∧ c.fraction = .ok q) ∧
        signedExponent (skipMinus tokens).1 q = .error f := by
  simp only [takeExponent, bind_eq_error, mapError_eq_ok, mapError_eq_error]
  constructor
  · rintro (⟨_, -, h⟩ | ⟨⟨c, rest⟩, hc, h | ⟨q, hf, ⟨f', hs, h⟩ | ⟨_, -, h⟩⟩⟩)
    · contradiction
    · exact absurd h (c.fraction_ne_fault f)
    · cases h
      exact ⟨q, rest, ⟨c, hc, hf⟩, hs⟩
    · contradiction
  · rintro ⟨q, rest, ⟨c, hc, hf⟩, hs⟩
    exact .inr ⟨(c, rest), hc, .inr ⟨q, hf, .inl ⟨f, hs, rfl⟩⟩⟩

theorem exists_overflows_of_takeExponent (h : takeExponent tokens = .error (.fault f)) :
    f = .negationOverflow ∧ ∃ v : WrittenValue, ∃ rest, tokens = v.tokens ++ rest ∧ v.Overflows := by
  rw [takeExponent_eq_fault_iff_fraction] at h
  obtain ⟨⟨n, d, hn, hd, hzero⟩, rest, hf, hs⟩ := h
  rw [takeConstant_fraction] at hf
  rw [signedExponent_eq_error] at hs
  dsimp only at hf hs
  obtain ⟨rfl, hmin⟩ := hs
  obtain ⟨joint, htokens, hminus⟩ | ⟨hskip, hnot⟩ := skipMinus_cases tokens
  · obtain ⟨l, hrest, hwrites⟩ | ⟨joint', l, k, suffixed, hrest, hk, rfl, rfl⟩ := hf
    · refine ⟨rfl, ⟨[joint], l⟩, rest, by rw [htokens, hrest]; rfl, ?_⟩
      obtain rfl | ⟨rfl, -⟩ := hmin
      · exact .denominator hwrites hn le_rfl
      · exact .numerator hwrites hd hzero le_rfl (.inl (by simp))
    · refine ⟨rfl, ⟨[joint, joint'], l⟩, rest, by rw [htokens, hrest]; rfl, ?_⟩
      obtain rfl : k = 2 ^ 31 := by omega
      exact .integer hk rfl
  · rw [hskip] at hf hmin
    obtain ⟨l, hrest, hwrites⟩ | ⟨joint', l, k, suffixed, hrest, -⟩ := hf
    · refine ⟨rfl, ⟨[], l⟩, rest, hrest, ?_⟩
      obtain rfl | ⟨rfl, hneg⟩ := hmin
      · exact .denominator hwrites hn (by simp)
      · exact .numerator hwrites hd hzero (by simp) (.inr (by simpa using hneg))
    · exact absurd hrest (hnot _ _)

theorem takeExponent_of_writes {minuses : List Bool} {l : Literal} (hwrites : l.Writes q.num q.den)
    (hminuses : minuses.length ≤ 1) (hs : signedExponent (!minuses.isEmpty) q = .error f) (rest : List Token) :
    takeExponent (WrittenValue.tokens ⟨minuses, l⟩ ++ rest) = .error (.fault f) := by
  rw [takeExponent_eq_fault_iff_fraction]
  simp only [takeConstant_fraction]
  match minuses with
  | [] | [_] => exact ⟨q, rest, .inl ⟨l, rfl, hwrites⟩, hs⟩
  | _ :: _ :: _ => simp at hminuses

theorem takeExponent_of_overflows {v : WrittenValue} (h : v.Overflows) (rest : List Token) :
    takeExponent (v.tokens ++ rest) = .error (.fault .negationOverflow) := by
  obtain ⟨minuses, l⟩ := v
  cases h with
  | @denominator n hwrites hn hminuses =>
    let q : Fraction := ⟨n, -2 ^ 31, hn, by decide, by decide⟩
    have hs : signedExponent (!minuses.isEmpty) q = .error .negationOverflow :=
      signedExponent_eq_error.mpr ⟨rfl, .inl rfl⟩
    exact takeExponent_of_writes hwrites hminuses hs rest
  | @numerator d hwrites hd hzero hminuses hsigns =>
    let q : Fraction := ⟨-2 ^ 31, d, by decide, hd, hzero⟩
    have hs : signedExponent (!minuses.isEmpty) q = .error .negationOverflow :=
      signedExponent_eq_error.mpr ⟨rfl, .inr ⟨rfl, hsigns.imp_left (by simpa using ·)⟩⟩
    exact takeExponent_of_writes hwrites hminuses hs rest
  | integer hvalue hminuses =>
    match minuses with
    | [joint, joint'] =>
      rw [takeExponent_eq_fault_iff_fraction]
      simp only [takeConstant_fraction]
      refine ⟨⟨-2 ^ 31, 1, by decide, by decide, by decide⟩, rest,
        .inr ⟨joint', l, 2 ^ 31, _, rfl, hvalue, rfl, rfl⟩, ?_⟩
      exact signedExponent_eq_error.mpr ⟨rfl, .inr ⟨rfl, .inl rfl⟩⟩

/-- The signs of an exponent overflow exactly if a value that overflows stands in front. -/
theorem takeExponent_eq_fault : takeExponent tokens = .error (.fault f) ↔
    f = .negationOverflow ∧ ∃ v : WrittenValue, ∃ rest, tokens = v.tokens ++ rest ∧ v.Overflows := by
  constructor
  · exact exists_overflows_of_takeExponent
  · rintro ⟨rfl, v, rest, rfl, h⟩
    exact takeExponent_of_overflows h rest

/-! ## Entries -/

/-- The entry gives a base dimension an exponent whose signs overflow. -/
def WrittenEntry.Overflows (w : WrittenEntry) : Prop :=
  (∃ b, w.key = .slot b) ∧ w.value.Overflows

theorem takeValue_eq_fault {key : Key} : takeValue tokens key = .error (.fault f) ↔
    (∃ b, key = .slot b) ∧ takeExponent tokens = .error (.fault f) := by
  cases key with
  | slot b => simp [takeValue, map_eq_error]
  | symbol => simp [takeValue, mapError_eq_error]

theorem takeEntry_eq_fault : takeEntry tokens = .error (.fault f) ↔
    f = .negationOverflow ∧ ∃ w : WrittenEntry, ∃ rest, tokens = w.tokens ++ rest ∧ w.Overflows := by
  constructor
  · intro h
    obtain ⟨key, equals, after, rfl⟩ | ⟨front, after, err, rfl, hstops⟩ := takeEntry_cases tokens
    · rw [takeEntry_word] at h
      obtain ⟨hslot, h⟩ := takeValue_eq_fault.mp h
      obtain ⟨hf, v, rest, rfl, hv⟩ := takeExponent_eq_fault.mp h
      exact ⟨hf, ⟨key, equals, v⟩, rest, rfl, hslot, hv⟩
    · rw [takeEntry_of_stopsKey hstops, Except.error.injEq] at h
      subst h
      generalize after.head? = t at hstops
      cases hstops
  · rintro ⟨rfl, ⟨key, equals, v⟩, rest, rfl, hslot, hv⟩
    have hvalue := takeValue_eq_fault.mpr ⟨hslot, takeExponent_of_overflows hv rest⟩
    exact (takeEntry_word key equals _).trans hvalue

/-! ## Annotations -/

theorem skipComma_entry (w : WrittenEntry) (rest : List Token) :
    skipComma (w.tokens ++ rest) = w.tokens ++ rest :=
  rfl

/-- The tokens write an entry whose signs overflow, and in front of it only entries that mean something. -/
def OverflowsIn (tokens : List Token) : Prop :=
  ∃ (ws : List (WrittenEntry × Option Bool)) (w : WrittenEntry) (rest : List Token),
    tokens = writeAll ws ++ (w.tokens ++ rest) ∧ (∀ u ∈ ws, ∃ e, u.1.Means e) ∧ w.Overflows

theorem takeEntries_eq_fault : takeEntries tokens = .error (.fault f) ↔
    f = .negationOverflow ∧ OverflowsIn tokens := by
  constructor
  · intro h
    obtain ⟨ws, rest, rfl, hws, -, -, hentry⟩ := exists_of_takeEntries_eq_error h
    obtain ⟨hf, w, rest, rfl, hw⟩ := takeEntry_eq_fault.mp hentry
    exact ⟨hf, ws, w, rest, rfl, hws, hw⟩
  · rintro ⟨rfl, ws, w, rest, rfl, hws, hw⟩
    obtain ⟨es, hes⟩ := Annotation.exists_forall₂_means hws
    have hentry := takeEntry_eq_fault.mpr ⟨rfl, w, rest, rfl, hw⟩
    have hne : w.tokens ++ rest ≠ [] := by simp [WrittenEntry.tokens]
    rw [takeEntries_append hes (takesComma_of_skipComma (skipComma_entry w rest)),
      takeEntries_of_error hne hentry]
    rfl

/-! ## Declarations -/

/-- The attribute that counts has an entry whose signs overflow, before anything that is refused. -/
def Declaration.Overflows (d : Declaration) : Prop :=
  ∃ tokens, d.HasArguments tokens ∧ OverflowsIn tokens

theorem arguments_ne_fault (a : Attribute) (f : Fault) : a.arguments ≠ .error (.fault f) := by
  unfold Attribute.arguments
  split <;> simp

theorem annotation_eq_fault {d : Declaration} :
    d.annotation = .error (.fault f) ↔ f = .negationOverflow ∧ d.Overflows := by
  simp only [Declaration.Overflows, hasArguments_iff]
  unfold Declaration.annotation
  split
  next hnone => simp [hnone]
  next a hsome =>
    change (a.arguments >>= Annotation.ofTokens) = .error (.fault f) ↔ _
    simp only [bind_eq_error, arguments_ne_fault, false_or, Annotation.ofTokens, map_eq_error,
      takeEntries_eq_fault, hsome, Option.some.injEq, exists_eq_left']
    constructor
    · rintro ⟨tokens, htokens, hf, h⟩
      exact ⟨hf, tokens, htokens, h⟩
    · rintro ⟨hf, tokens, htokens, h⟩
      exact ⟨tokens, htokens, hf, h⟩

namespace Implementation

theorem ofText_eq_fault {text : String} : ofText text = .error (.fault f) ↔
    f = .negationOverflow ∧ ∃ d, Declaration.read text = .ok d ∧ d.Overflows := by
  unfold ofText
  split
  next d hd =>
    rw [ofDeclaration, map_eq_error, annotation_eq_fault, hd]
    simp
  next hd => simp [hd]

/-- A text gives code whose seven denominators are all positive, or a reason to refuse it, or else the
negation of the least number overflows. That happens exactly to the declarations that ask for it. -/
theorem ofText_outcome (text : String) :
    ((∃ i c, ofText text = .ok i ∧ read? i.tokens = some c ∧ c.ratios.length = 7 ∧
        ∀ r ∈ c.ratios, 0 < r.2) ∨
      (∃ e, ofText text = .error e ∧ ∀ f, e ≠ .fault f) ∨
      ofText text = .error (.fault .negationOverflow)) ∧
    (ofText text = .error (.fault .negationOverflow) ↔
      ∃ d, Declaration.read text = .ok d ∧ d.Overflows) := by
  constructor
  · cases h : ofText text with
    | ok i =>
      refine .inl ⟨i, _, rfl, read?_tokens i, rfl, ?_⟩
      intro r hr
      obtain ⟨b, -, rfl⟩ := List.mem_map.mp hr
      exact (i.annotation.dimension.exponent b).den_pos
    | error e =>
      by_cases he : ∃ f, e = .fault f
      · obtain ⟨f, rfl⟩ := he
        obtain ⟨rfl, -⟩ := ofText_eq_fault.mp h
        exact .inr (.inr rfl)
      · exact .inr (.inl ⟨e, rfl, not_exists.mp he⟩)
  · rw [ofText_eq_fault, and_iff_right rfl]

set_option maxRecDepth 10000 in
/-- The negative of `-2147483648 / -1` could be stored, but the minus is worked out before the sign of the
denominator. -/
theorem ofText_stops_at_least_numerator :
    (∃ e : Exponent, e.value = -(-2 ^ 31 / -1)) ∧
    ofText "#[dimension(length = -\"-2147483648/-1\")] struct X;" = .error (.fault .negationOverflow) := by
  refine ⟨⟨.whole (-2 ^ 31), by norm_num⟩, ?_⟩
  decide +kernel

end Implementation

end Dimensional.Marker
