import Mathlib.Algebra.Group.Int.Defs
import Mathlib.Tactic.SplitIfs
import Dimensional.Marker.Entry
import Dimensional.Proofs.Text.Runs

/-!
# Fractions in strings

A string writes an exponent as a whole number, or as two of them around its first slash. Blanks around a
number do not matter.
-/

namespace Dimensional.Marker

/-! ## Whole numbers -/

/-- A text of decimal digits, at least one. -/
structure IsDecimal (ds : List Char) : Prop where
  ne_nil : ds ≠ []
  isDigit : ∀ c ∈ ds, c.isDigit

/-- The text spells a whole number: decimal digits, perhaps with a sign before them. -/
inductive Spells : List Char → Int → Prop where
  | unsigned {ds : List Char} (h : IsDecimal ds) : Spells ds (Nat.ofDigitChars 10 ds 0)
  | plus {ds : List Char} (h : IsDecimal ds) : Spells ('+' :: ds) (Nat.ofDigitChars 10 ds 0)
  | minus {ds : List Char} (h : IsDecimal ds) : Spells ('-' :: ds) (-Nat.ofDigitChars 10 ds 0)

theorem isDecimal_iff {ds : List Char} :
    IsDecimal ds ↔ (!ds.isEmpty && ds.all Char.isDigit) = true := by
  simp only [Bool.and_eq_true, Bool.not_eq_true', List.isEmpty_eq_false_iff, List.all_eq_true]
  exact ⟨fun h => ⟨h.ne_nil, h.isDigit⟩, fun h => ⟨h.1, h.2⟩⟩

theorem not_isDecimal_sign {c : Char} {ds : List Char} (hc : c.isDigit = false) :
    ¬ IsDecimal (c :: ds) := by
  intro h
  have := h.isDigit c List.mem_cons_self
  rw [hc] at this
  contradiction

theorem spells_plus {ds : List Char} {n : Int} :
    Spells ('+' :: ds) n ↔ IsDecimal ds ∧ Nat.ofDigitChars 10 ds 0 = n := by
  constructor
  · rintro (h | h | h)
    · exact absurd h (not_isDecimal_sign (by decide))
    · exact ⟨h, rfl⟩
  · rintro ⟨h, rfl⟩
    exact .plus h

theorem spells_minus {ds : List Char} {n : Int} :
    Spells ('-' :: ds) n ↔ IsDecimal ds ∧ -Nat.ofDigitChars 10 ds 0 = n := by
  constructor
  · rintro (h | h | h)
    · exact absurd h (not_isDecimal_sign (by decide))
    · exact ⟨h, rfl⟩
  · rintro ⟨h, rfl⟩
    exact .minus h

theorem spells_unsigned {cs : List Char} {n : Int} (hplus : ∀ ds, cs ≠ '+' :: ds)
    (hminus : ∀ ds, cs ≠ '-' :: ds) : Spells cs n ↔ IsDecimal cs ∧ Nat.ofDigitChars 10 cs 0 = n := by
  constructor
  · rintro (h | h | h)
    · exact ⟨h, rfl⟩
    · exact absurd rfl (hplus _)
    · exact absurd rfl (hminus _)
  · rintro ⟨h, rfl⟩
    exact .unsigned h

theorem Spells.unique {cs : List Char} {n m : Int} (hn : Spells cs n) (hm : Spells cs m) : n = m := by
  by_cases hplus : ∃ ds, cs = '+' :: ds
  · obtain ⟨ds, rfl⟩ := hplus
    exact (spells_plus.mp hn).2.symm.trans (spells_plus.mp hm).2
  · by_cases hminus : ∃ ds, cs = '-' :: ds
    · obtain ⟨ds, rfl⟩ := hminus
      exact (spells_minus.mp hn).2.symm.trans (spells_minus.mp hm).2
    · have hunsigned {k : Int} : Spells cs k ↔ IsDecimal cs ∧ Nat.ofDigitChars 10 cs 0 = k :=
        spells_unsigned (not_exists.mp hplus) (not_exists.mp hminus)
      exact (hunsigned.mp hn).2.symm.trans (hunsigned.mp hm).2

theorem storedNumber?_eq_some {cs : List Char} {n : {n : Int // IsStored n}} :
    storedNumber? cs = some n ↔ Spells cs n := by
  obtain ⟨n, hn⟩ := n
  unfold storedNumber?
  split
  next sign digits heq =>
  have hspells : Spells cs n ↔ IsDecimal digits ∧ sign * Nat.ofDigitChars 10 digits 0 = n := by
    split at heq
    · cases heq
      rw [spells_plus, Int.one_mul]
    · cases heq
      rw [spells_minus, Int.neg_mul, Int.one_mul]
    · cases heq
      rw [spells_unsigned ‹_› ‹_›, Int.one_mul]
  simp only [hspells, Option.dite_none_right_eq_some, ← isDecimal_iff, Option.some.injEq, Subtype.mk.injEq]
  constructor
  · rintro ⟨⟨hds, -⟩, rfl⟩
    exact ⟨hds, rfl⟩
  · rintro ⟨hds, rfl⟩
    exact ⟨⟨hds, hn⟩, rfl⟩

/-! ## Fractions -/

/-- The text spells a fraction by its numerator and denominator. -/
inductive SpellsFraction : List Char → Int → Int → Prop where
  /-- A text without a slash is over one. -/
  | whole {text : List Char} {n : Int} (hslash : '/' ∉ text) (hn : Spells (Text.trimBlanks text) n) :
    SpellsFraction text n 1
  /-- The first slash separates the two numbers. -/
  | divided {above below : List Char} {n d : Int} (hslash : '/' ∉ above)
    (hn : Spells (Text.trimBlanks above) n) (hd : Spells (Text.trimBlanks below) d) :
    SpellsFraction (above ++ '/' :: below) n d

theorem sides_of_not_mem {text : List Char} (h : '/' ∉ text) :
    sides text = (Text.trimBlanks text, ['1']) := by
  have hrun : ∀ c ∈ text, decide (c ≠ '/') := fun c hc => by
    simpa using ne_of_mem_of_not_mem hc h
  have hdrop := Text.dropWhile_run hrun Text.stops_nil
  rw [List.append_nil] at hdrop
  rw [sides, hdrop]

theorem sides_divided {above below : List Char} (h : '/' ∉ above) :
    sides (above ++ '/' :: below) = (Text.trimBlanks above, Text.trimBlanks below) := by
  have hrun : ∀ c ∈ above, decide (c ≠ '/') := fun c hc => by
    simpa using ne_of_mem_of_not_mem hc h
  have hstops : Text.Stops (fun c => decide (c ≠ '/')) ('/' :: below) := Text.stops_cons (by simp)
  rw [sides, Text.dropWhile_run hrun hstops, Text.takeWhile_run hrun hstops]

theorem spells_one {d : Int} : Spells ['1'] d ↔ d = 1 := by
  have hone : IsDecimal ['1'] := isDecimal_iff.mpr (by decide)
  rw [spells_unsigned (by simp) (by simp), and_iff_right hone, eq_comm]
  rfl

theorem spellsFraction_iff {text : List Char} {n d : Int} :
    SpellsFraction text n d ↔ Spells (sides text).1 n ∧ Spells (sides text).2 d := by
  constructor
  · intro h
    cases h with
    | whole hslash hn =>
      rw [sides_of_not_mem hslash]
      exact ⟨hn, spells_one.mpr rfl⟩
    | divided hslash hn hd =>
      rw [sides_divided hslash]
      exact ⟨hn, hd⟩
  · rintro ⟨hn, hd⟩
    by_cases hslash : '/' ∈ text
    · obtain ⟨above, below, rfl, habove⟩ := List.eq_append_cons_of_mem hslash
      rw [sides_divided habove] at hn hd
      exact .divided habove hn hd
    · rw [sides_of_not_mem hslash] at hn hd
      cases spells_one.mp hd
      exact .whole hslash hn

theorem SpellsFraction.unique {text : List Char} {n d n' d' : Int} (h : SpellsFraction text n d)
    (h' : SpellsFraction text n' d') : n = n' ∧ d = d' := by
  rw [spellsFraction_iff] at h h'
  exact ⟨h.1.unique h'.1, h.2.unique h'.2⟩

theorem fraction_cases (text : List Char) :
    (∃ q : Fraction, SpellsFraction text q.num q.den ∧ fraction text = .ok q) ∨
    (∃ n, (SpellsFraction text n 0 ∧ IsStored n) ∧ fraction text = .error .zeroDenominator) ∨
    ((∀ n d, SpellsFraction text n d → ¬ (IsStored n ∧ IsStored d)) ∧
      fraction text = .error (.notFraction (.ofList text))) := by
  simp only [spellsFraction_iff]
  unfold fraction
  split
  next above below hsides =>
  rw [hsides]
  split
  next n d hn hd =>
    have hn := storedNumber?_eq_some.mp hn
    have hd := storedNumber?_eq_some.mp hd
    split
    next hzero => exact .inr (.inl ⟨n, ⟨⟨hn, hzero ▸ hd⟩, n.2⟩, rfl⟩)
    next hzero => exact .inl ⟨⟨n, d, n.2, d.2, hzero⟩, ⟨hn, hd⟩, rfl⟩
  next hnone =>
    refine .inr (.inr ⟨fun n d hspells hstored => ?_, rfl⟩)
    exact hnone ⟨n, hstored.1⟩ ⟨d, hstored.2⟩ (storedNumber?_eq_some.mpr hspells.1)
      (storedNumber?_eq_some.mpr hspells.2)

theorem fraction_eq_ok {text : List Char} {q : Fraction} :
    fraction text = .ok q ↔ SpellsFraction text q.num q.den := by
  obtain ⟨q', hf, h⟩ | ⟨n, ⟨hf, -⟩, h⟩ | ⟨hnone, h⟩ := fraction_cases text
  · rw [h]
    constructor
    · intro heq
      rwa [← Except.ok.inj heq]
    · intro hf'
      obtain ⟨hn, hd⟩ := hf.unique hf'
      rw [Fraction.ext hn hd]
  · rw [h]
    simp only [reduceCtorEq, false_iff]
    exact fun hf' => q.den_ne_zero (hf.unique hf').2.symm
  · rw [h]
    simp only [reduceCtorEq, false_iff]
    exact fun hf' => hnone _ _ hf' ⟨q.num_stored, q.den_stored⟩

/-- A missing or unstorable number is complained about before a zero below the slash. -/
theorem fraction_eq_error {text : List Char} {err : MarkerError} :
    fraction text = .error err ↔
      (err = .notFraction (.ofList text) ∧
        ∀ n d, SpellsFraction text n d → ¬ (IsStored n ∧ IsStored d)) ∨
      err = .zeroDenominator ∧ ∃ n, SpellsFraction text n 0 ∧ IsStored n := by
  obtain ⟨q, hf, h⟩ | ⟨n, ⟨hf, hn⟩, h⟩ | ⟨hnone, h⟩ := fraction_cases text
  · rw [h]
    simp only [reduceCtorEq, false_iff]
    rintro (⟨-, hnone⟩ | ⟨-, n, hf', -⟩)
    · exact hnone _ _ hf ⟨q.num_stored, q.den_stored⟩
    · exact q.den_ne_zero (hf.unique hf').2
  · rw [h, Except.error.injEq]
    constructor
    · rintro rfl
      exact .inr ⟨rfl, n, hf, hn⟩
    · rintro (⟨-, hnone⟩ | ⟨rfl, -⟩)
      · exact absurd ⟨hn, by decide⟩ (hnone n 0 hf)
      · rfl
  · rw [h, Except.error.injEq]
    constructor
    · rintro rfl
      exact .inl ⟨rfl, hnone⟩
    · rintro (⟨rfl, -⟩ | ⟨-, n, hf, hn⟩)
      · rfl
      · exact absurd ⟨hn, by decide⟩ (hnone n 0 hf)

end Dimensional.Marker
