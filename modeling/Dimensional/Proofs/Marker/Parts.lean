import Dimensional.Proofs.Marker.Overflow
import Dimensional.Proofs.Text.Words

/-!
# Exponents in strings

A string is cut at its first slash, and each part has to be a number. What is wrong is looked for in this order:
a part that is no number, a zero below the slash, a sign that cannot be turned.
-/

namespace Dimensional.Marker

open Outcome Text

/-- The two parts of a text stand around its first slash. The second part of a text without a slash is `1`. -/
inductive HasParts : List Char → List Char → List Char → Prop where
  | whole {text : List Char} (hslash : '/' ∉ text) : HasParts text text ['1']
  | divided {above below : List Char} (hslash : '/' ∉ above) :
    HasParts (above ++ '/' :: below) above below

/-- The part is the decimal text of a number that can be stored, with blanks around it. -/
def WritesNumber (part : List Char) (n : ℤ) : Prop :=
  ∃ core, Padded core part ∧ Spells core n ∧ IsStored n

/-- The signs of `n / d` ask for the negative of the least number. A minus before it turns `n`, and a negative
denominator turns both numbers. -/
def SignsOverflow (negative : Bool) (n d : ℤ) : Prop :=
  d = -2 ^ 31 ∨ n = -2 ^ 31 ∧ (negative = true ∨ d < 0)

/-- The reason with `text` in place of a quoted one. -/
def MarkerError.quoting (text : List Char) : MarkerError → MarkerError
  | notFraction _ => .notFraction (.ofList text)
  | e => e

/-- The exponent that a string gives, with a minus before it or not. -/
def stringExponent (negative : Bool) (text : List Char) : Except MarkerError Exponent := do
  let q ← fraction text
  (signedExponent negative q).mapError .fault

/-- The numbers of the two parts decide whether there is an exponent and which one, and else what is wrong. -/
structure ReadsParts (negative : Bool) (text above below : List Char) (r : Except MarkerError Exponent) :
    Prop where
  accepted : (∃ e, r = .ok e) ↔
    ∃ n d, WritesNumber above n ∧ WritesNumber below d ∧ d ≠ 0 ∧ ¬ SignsOverflow negative n d
  exponent : ∀ e n d, r = .ok e → WritesNumber above n → WritesNumber below d →
    e.value = (if negative then -((n : ℚ) / d) else n / d) ∧ |e.num| = |n| ∧ e.den = |d| ∧ 0 < e.den
  notFraction : r = .error (.notFraction (.ofList text)) ↔
    ¬ ((∃ n, WritesNumber above n) ∧ ∃ d, WritesNumber below d)
  zeroDenominator : r = .error .zeroDenominator ↔ (∃ n, WritesNumber above n) ∧ WritesNumber below 0
  overflow : r = .error (.fault .negationOverflow) ↔
    ∃ n d, WritesNumber above n ∧ WritesNumber below d ∧ d ≠ 0 ∧ SignsOverflow negative n d

variable {text above below part core : List Char} {negative : Bool} {n d : ℤ}

/-! ## Parts -/

theorem exists_hasParts (text : List Char) : ∃ above below, HasParts text above below := by
  by_cases hslash : '/' ∈ text
  · obtain ⟨above, below, rfl, habove⟩ := List.eq_append_cons_of_mem hslash
    exact ⟨above, below, .divided habove⟩
  · exact ⟨text, ['1'], .whole hslash⟩

theorem sides_of_hasParts (h : HasParts text above below) :
    sides text = (trimBlanks above, trimBlanks below) := by
  cases h with
  | whole hslash =>
    have hone : trimBlanks ['1'] = ['1'] := by decide +kernel
    rw [sides_of_not_mem hslash, hone]
  | divided hslash => exact sides_divided hslash

/-! ## Numbers -/

theorem mem_of_spells (h : Spells core n) {c : Char} (hc : c ∈ core) : c = '+' ∨ c = '-' ∨ c.isDigit := by
  cases h with
  | unsigned h => exact .inr (.inr (h.isDigit c hc))
  | plus h => exact (List.mem_cons.mp hc).imp_right fun hc => .inr (h.isDigit c hc)
  | minus h => exact .inr ((List.mem_cons.mp hc).imp_right (h.isDigit c))

theorem isBlank_of_spells (h : Spells core n) : ∀ c ∈ core, isBlank c = false := by
  intro c hc
  obtain rfl | rfl | hdigit := mem_of_spells h hc
  · decide +kernel
  · decide +kernel
  · exact isBlank_of_isDigit hdigit

theorem slash_not_mem_of_spells (h : Spells core n) : '/' ∉ core := by
  intro hc
  obtain hsign | hsign | hdigit := mem_of_spells h hc
  · contradiction
  · contradiction
  · exact absurd hdigit (by decide)

theorem spells_trimBlanks : Spells (trimBlanks part) n ∧ IsStored n ↔ WritesNumber part n := by
  constructor
  · rintro ⟨hspells, hn⟩
    exact ⟨_, padded_trimBlanks part, hspells, hn⟩
  · rintro ⟨core, hpadded, hspells, hn⟩
    rw [hpadded.trimBlanks, trimBlanks_of_not_isBlank (isBlank_of_spells hspells)]
    exact ⟨hspells, hn⟩

theorem WritesNumber.unique {m : ℤ} (hn : WritesNumber part n) (hm : WritesNumber part m) : m = n :=
  (spells_trimBlanks.mpr hm).1.unique (spells_trimBlanks.mpr hn).1

theorem storedNumber?_trimBlanks {n : {n : ℤ // IsStored n}} :
    storedNumber? (trimBlanks part) = some n ↔ WritesNumber part n := by
  rw [storedNumber?_eq_some, ← spells_trimBlanks, and_iff_left n.2]

theorem slash_not_mem_of_writesNumber (h : WritesNumber part n) : '/' ∉ part := by
  obtain ⟨core, @⟨before, after, hbefore, hafter⟩, hspells, -⟩ := h
  have hslash : isBlank '/' = false := by decide +kernel
  have hblank : ∀ cs : List Char, (∀ c ∈ cs, isBlank c) → '/' ∉ cs := fun cs hcs hmem => by
    simp [hcs _ hmem] at hslash
  simp only [List.mem_append, not_or]
  exact ⟨hblank _ hbefore, slash_not_mem_of_spells hspells, hblank _ hafter⟩

/-! ## Fractions -/

theorem writesNumber_iff_of_hasParts (h : HasParts text above below) :
    SpellsFraction text n d ∧ IsStored n ∧ IsStored d ↔ WritesNumber above n ∧ WritesNumber below d := by
  rw [spellsFraction_iff, sides_of_hasParts h, ← spells_trimBlanks, ← spells_trimBlanks]
  exact ⟨fun ⟨⟨hn, hd⟩, hns, hds⟩ => ⟨⟨hn, hns⟩, hd, hds⟩, fun ⟨⟨hn, hns⟩, hd, hds⟩ => ⟨⟨hn, hd⟩, hns, hds⟩⟩

theorem fraction_of_hasParts (h : HasParts text above below) :
    (∃ q : Fraction, (WritesNumber above q.num ∧ WritesNumber below q.den) ∧ fraction text = .ok q) ∨
    (∃ n, (WritesNumber above n ∧ WritesNumber below 0) ∧ fraction text = .error .zeroDenominator) ∨
    (∀ n d, ¬ (WritesNumber above n ∧ WritesNumber below d)) ∧
      fraction text = .error (.notFraction (.ofList text)) := by
  obtain ⟨q, hq, hf⟩ | ⟨n, ⟨hn, hns⟩, hf⟩ | ⟨hnone, hf⟩ := fraction_cases text
  · exact .inl ⟨q, (writesNumber_iff_of_hasParts h).mp ⟨hq, q.num_stored, q.den_stored⟩, hf⟩
  · exact .inr (.inl ⟨n, (writesNumber_iff_of_hasParts h).mp ⟨hn, hns, by decide⟩, hf⟩)
  · refine .inr (.inr ⟨fun n d hboth => ?_, hf⟩)
    obtain ⟨hspells, hstored⟩ := (writesNumber_iff_of_hasParts h).mpr hboth
    exact hnone n d hspells hstored

theorem fraction_of_two_le_count (h : 2 ≤ text.count '/') :
    fraction text = .error (.notFraction (.ofList text)) := by
  obtain ⟨above, below, hparts⟩ := exists_hasParts text
  -- a number holds no slash, so a text of two numbers holds at most the one between them
  have hnone : ∀ n d, ¬ (WritesNumber above n ∧ WritesNumber below d) := by
    rintro n d ⟨hn, hd⟩
    have habove : above.count '/' = 0 := List.count_eq_zero.mpr (slash_not_mem_of_writesNumber hn)
    have hbelow : below.count '/' = 0 := List.count_eq_zero.mpr (slash_not_mem_of_writesNumber hd)
    cases hparts with
    | whole => omega
    | divided => simp only [List.count_append, List.count_cons_self] at h; omega
  obtain ⟨q, hboth, -⟩ | ⟨n, hboth, -⟩ | ⟨-, hf⟩ := fraction_of_hasParts hparts
  · exact absurd hboth (hnone _ _)
  · exact absurd hboth (hnone _ _)
  · exact hf

theorem fraction_padded {text' above' below' : List Char} (h : HasParts text above below)
    (h' : HasParts text' above' below') (habove : Padded above above') (hbelow : Padded below below') :
    fraction text' = (fraction text).mapError (.quoting text') := by
  have hsides : sides text' = sides text := by
    rw [sides_of_hasParts h, sides_of_hasParts h', habove.trimBlanks, hbelow.trimBlanks]
  unfold fraction
  rw [hsides]
  split
  split
  · split_ifs <;> rfl
  · rfl

/-! ## Exponents -/

theorem value_of_signedExponent {q : Fraction} {e : Exponent} (h : signedExponent negative q = .ok e) :
    e.value = (if negative then -((q.num : ℚ) / q.den) else q.num / q.den) ∧ |e.num| = |q.num| ∧
      e.den = |q.den| := by
  obtain ⟨-, hnum, hden⟩ := signedExponent_eq_ok.mp h
  have hpair := Exponent.ofPair_eq_ok.mpr ⟨q.den_ne_zero, hnum, hden⟩
  have hvalue := Exponent.value_of_ofPair hpair
  have habs := (Exponent.abs_num_of_ofPair hpair).1
  cases negative with
  | false => exact ⟨hvalue, habs, hden⟩
  | true =>
    simp only [if_true, Int.cast_neg, neg_div, abs_neg] at hvalue habs ⊢
    exact ⟨hvalue, habs, hden⟩

theorem signedExponent_cases (q : Fraction) :
    SignsOverflow negative q.num q.den ∧ signedExponent negative q = .error .negationOverflow ∨
      ¬ SignsOverflow negative q.num q.den ∧ ∃ e, signedExponent negative q = .ok e := by
  cases hs : signedExponent negative q with
  | error f =>
    obtain ⟨rfl, hsigns⟩ := signedExponent_eq_error.mp hs
    exact .inl ⟨hsigns, rfl⟩
  | ok e =>
    refine .inr ⟨fun hsigns => ?_, e, rfl⟩
    rw [signedExponent_eq_error.mpr ⟨rfl, hsigns⟩] at hs
    contradiction

theorem exists_numbers_iff {P : ℤ → ℤ → Prop} (hn : WritesNumber above n) (hd : WritesNumber below d) :
    (∃ n d, WritesNumber above n ∧ WritesNumber below d ∧ P n d) ↔ P n d := by
  constructor
  · rintro ⟨n', d', hn', hd', h⟩
    rwa [hn.unique hn', hd.unique hd'] at h
  · exact fun h => ⟨n, d, hn, hd, h⟩

theorem readsParts_of_numbers {r : Except MarkerError Exponent} (hn : WritesNumber above n)
    (hd : WritesNumber below d) (haccepted : (∃ e, r = .ok e) ↔ d ≠ 0 ∧ ¬ SignsOverflow negative n d)
    (hexponent : ∀ e, r = .ok e →
      e.value = (if negative then -((n : ℚ) / d) else n / d) ∧ |e.num| = |n| ∧ e.den = |d|)
    (hnot : r ≠ .error (.notFraction (.ofList text))) (hzero : r = .error .zeroDenominator ↔ d = 0)
    (hoverflow : r = .error (.fault .negationOverflow) ↔ d ≠ 0 ∧ SignsOverflow negative n d) :
    ReadsParts negative text above below r where
  accepted := by rw [exists_numbers_iff hn hd, haccepted]
  exponent := by
    intro e n' d' he hn' hd'
    rw [hn.unique hn', hd.unique hd']
    obtain ⟨hvalue, hnum, hden⟩ := hexponent e he
    exact ⟨hvalue, hnum, hden, e.den_pos⟩
  notFraction := iff_of_false hnot (not_not_intro ⟨⟨n, hn⟩, d, hd⟩)
  zeroDenominator := by
    rw [hzero]
    constructor
    · rintro rfl
      exact ⟨⟨n, hn⟩, hd⟩
    · exact fun h => hd.unique h.2 ▸ rfl
  overflow := by rw [exists_numbers_iff hn hd, hoverflow]

theorem readsParts_of_not_numbers (hnone : ¬ ((∃ n, WritesNumber above n) ∧ ∃ d, WritesNumber below d)) :
    ReadsParts negative text above below (.error (.notFraction (.ofList text))) where
  accepted := iff_of_false (by simp) fun ⟨n, d, hn, hd, _⟩ => hnone ⟨⟨n, hn⟩, d, hd⟩
  exponent := fun e n d h => nomatch h
  notFraction := iff_of_true rfl hnone
  zeroDenominator := iff_of_false (by simp) fun h => hnone ⟨h.1, 0, h.2⟩
  overflow := iff_of_false (by simp) fun ⟨n, d, hn, hd, _⟩ => hnone ⟨⟨n, hn⟩, d, hd⟩

/-- What is wrong is looked for in order: the numbers, a zero below the slash, the signs. -/
theorem stringExponent_readsParts (h : HasParts text above below) :
    ReadsParts negative text above below (stringExponent negative text) := by
  unfold stringExponent
  obtain ⟨q, ⟨hn, hd⟩, hf⟩ | ⟨n, ⟨hn, hd⟩, hf⟩ | ⟨hnone, hf⟩ := fraction_of_hasParts h
  · rw [hf]
    change ReadsParts _ _ _ _ ((signedExponent negative q).mapError .fault)
    have hzero := q.den_ne_zero
    obtain ⟨hsigns, hs⟩ | ⟨hsigns, e, hs⟩ := signedExponent_cases q
    · rw [hs]
      apply readsParts_of_numbers hn hd <;> simp [Except.mapError, hzero, hsigns]
    · rw [hs]
      apply readsParts_of_numbers hn hd <;> simp [Except.mapError, hzero, hsigns, value_of_signedExponent hs]
  · rw [hf]
    apply readsParts_of_numbers hn hd <;> simp [bind, Except.bind]
  · rw [hf]
    exact readsParts_of_not_numbers fun ⟨⟨n, hn⟩, d, hd⟩ => hnone n d ⟨hn, hd⟩

theorem takeExponent_string {l : Literal} (hl : l.value = .string text) (minus : Option Bool)
    (rest : List Token) :
    takeExponent (WrittenValue.tokens ⟨minus.toList, l⟩ ++ rest) =
      (stringExponent minus.isSome text).map (·, rest) := by
  have hc : Constant.ofLiteral l = .string text l := by rw [Constant.ofLiteral, hl]
  have htake : takeConstant (.literal l :: rest) = .ok (.string text l, rest) := by
    rw [takeConstant, skipConstant?, hc]
  have hskip : skipMinus (WrittenValue.tokens ⟨minus.toList, l⟩ ++ rest) =
      (minus.isSome, .literal l :: rest) := by
    cases minus <;> rfl
  unfold takeExponent stringExponent
  rw [hskip]
  dsimp only
  rw [htake]
  change (fraction text >>= _) = _
  cases fraction text with
  | error _ => rfl
  | ok q =>
    change ((signedExponent minus.isSome q).mapError MarkerError.fault >>= _) =
      ((signedExponent minus.isSome q).mapError MarkerError.fault).map _
    cases signedExponent minus.isSome q <;> rfl

theorem stringExponent_padded {text' above' below' : List Char} (h : HasParts text above below)
    (h' : HasParts text' above' below') (habove : Padded above above') (hbelow : Padded below below') :
    stringExponent negative text' = (stringExponent negative text).mapError (.quoting text') := by
  unfold stringExponent
  rw [fraction_padded h h' habove hbelow]
  cases fraction text with
  | error _ => rfl
  | ok q =>
    change (signedExponent negative q).mapError MarkerError.fault =
      ((signedExponent negative q).mapError MarkerError.fault).mapError _
    cases signedExponent negative q <;> rfl

/-- A string with or without a minus before it gives an exponent exactly if its two parts are numbers that can
be stored, the second is not zero and the signs can be turned. The exponent keeps the two numbers up to their
signs. Of the errors, only that for a part that is no number quotes the string. -/
theorem takeExponent_string_outcome {l : Literal} (hl : l.value = .string text) (minus : Option Bool)
    (rest : List Token) :
    (∃ above below, HasParts text above below) ∧
    (∀ above below, HasParts text above below →
      ∃ r, takeExponent (WrittenValue.tokens ⟨minus.toList, l⟩ ++ rest) = r.map (·, rest) ∧
        ReadsParts minus.isSome text above below r) ∧
    (2 ≤ text.count '/' → takeExponent (WrittenValue.tokens ⟨minus.toList, l⟩ ++ rest) =
      .error (.notFraction (.ofList text))) ∧
    (∀ (l' : Literal) (text' above below above' below' : List Char), l'.value = .string text' →
      HasParts text above below → HasParts text' above' below' →
      Padded above above' → Padded below below' →
      takeExponent (WrittenValue.tokens ⟨minus.toList, l'⟩ ++ rest) =
        (takeExponent (WrittenValue.tokens ⟨minus.toList, l⟩ ++ rest)).mapError (.quoting text')) ∧
    (MarkerError.notFraction (.ofList text)).message =
      "invalid rational exponent `" ++ .ofList text ++ "`" ∧
    MarkerError.zeroDenominator.message = "exponent denominator must not be zero" := by
  rw [takeExponent_string hl]
  refine ⟨exists_hasParts text, ?parts, ?slashes, ?blanks, rfl, rfl⟩
  case parts => exact fun above below h => ⟨_, rfl, stringExponent_readsParts h⟩
  case slashes =>
    intro hcount
    rw [stringExponent, fraction_of_two_le_count hcount]
    rfl
  case blanks =>
    intro l' text' above below above' below' hl' h h' habove hbelow
    rw [takeExponent_string hl', stringExponent_padded h h' habove hbelow, mapError_map]

theorem takeExponent_string_outcome_slashes :
    (∃ e, e.value = -(6 / 4) ∧ |e.num| = 6 ∧ e.den = 4 ∧
      takeExponent [.mark '-' false, .literal ⟨"\" -6 / -4 \"", .string " -6 / -4 ".toList⟩] = .ok (e, [])) ∧
    takeExponent [.literal ⟨"\"1/2/3\"", .string "1/2/3".toList⟩] = .error (.notFraction "1/2/3") := by
  constructor
  · have hl : Value.string " -6 / -4 ".toList =
        .string ([' ', '-', '6', ' '] ++ '/' :: [' ', '-', '4', ' ']) := rfl
    obtain ⟨-, hparts, -⟩ := takeExponent_string_outcome (l := ⟨"\" -6 / -4 \"", _⟩) hl (some false) []
    obtain ⟨r, hr, hreads⟩ := hparts _ _ (.divided (by decide))
    have habove : WritesNumber [' ', '-', '6', ' '] (-6) :=
      storedNumber?_trimBlanks (n := ⟨-6, by decide⟩).mp (by decide +kernel)
    have hbelow : WritesNumber [' ', '-', '4', ' '] (-4) :=
      storedNumber?_trimBlanks (n := ⟨-4, by decide⟩).mp (by decide +kernel)
    obtain ⟨e, rfl⟩ := hreads.accepted.mpr ⟨-6, -4, habove, hbelow, by decide, by simp [SignsOverflow]⟩
    obtain ⟨hvalue, hnum, hden, -⟩ := hreads.exponent e (-6) (-4) rfl habove hbelow
    exact ⟨e, by rw [hvalue]; norm_num, hnum, hden, hr⟩
  · have hl : Value.string "1/2/3".toList = .string ['1', '/', '2', '/', '3'] := rfl
    obtain ⟨-, -, hslashes, -⟩ := takeExponent_string_outcome (l := ⟨"\"1/2/3\"", _⟩) hl none []
    exact hslashes (by decide)

end Dimensional.Marker
