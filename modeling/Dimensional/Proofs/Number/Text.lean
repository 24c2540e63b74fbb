import Mathlib.Algebra.Group.Nat.Defs
import Mathlib.Tactic.SplitIfs
import Dimensional.Number.Layout
import Dimensional.Proofs.Text.Words

/-!
# The plain text of numbers

Without a format a number is its sign and its shortest digits. The text is one word.
-/

namespace Dimensional.Number

open Text

@[simp]
theorem layOut_default (sign body : List Char) : layOut {} sign body = sign ++ body := by
  simp [layOut, pad]

theorem toList_text (x : Float) :
    (text {} x).toList = layOutNumber {} (plain none) (.ofFloat x) := by
  rw [text, String.toList_ofList]

/-! ## Digits -/

theorem isDigit_of_mem_zeros {n : Nat} {c : Char} (h : c ∈ List.replicate n '0') : c.isDigit := by
  rw [List.eq_of_mem_replicate h]
  rfl

theorem isDigit_of_mem_digits (x : Decimal) (n k : Nat) :
    ∀ c ∈ List.replicate n '0' ++ x.digits ++ List.replicate k '0', c.isDigit := by
  intro c h
  rw [List.mem_append, List.mem_append] at h
  rcases h with (h | h) | h
  · exact isDigit_of_mem_zeros h
  · exact isDigit_of_mem_decimal c h
  · exact isDigit_of_mem_zeros h

theorem ofDigitChars_digits (x : Decimal) (n k : Nat) :
    Nat.ofDigitChars 10 (List.replicate n '0' ++ x.digits ++ List.replicate k '0') 0 =
      x.coefficient * 10 ^ k := by
  rw [Nat.ofDigitChars_append, Nat.ofDigitChars_append, Nat.ofDigitChars_replicate_zero,
    Nat.ofDigitChars_replicate_zero, Nat.mul_zero, Decimal.digits, Nat.ofDigitChars_ten_toDigits,
    Nat.mul_comm]

/-- A whole number in full. -/
structure WritesWhole (x : Decimal) (ds : List Char) : Prop where
  ne_nil : ds ≠ []
  isDigit : ∀ c ∈ ds, c.isDigit
  value : Nat.ofDigitChars 10 ds 0 = x.coefficient * 10 ^ x.exponent.toNat

/-- The digits before the point and those behind it. -/
structure WritesPoint (x : Decimal) (ds fs : List Char) : Prop where
  ne_nil : ds ≠ []
  isDigit : ∀ c ∈ ds ++ fs, c.isDigit
  value : Nat.ofDigitChars 10 (ds ++ fs) 0 = x.coefficient
  places : x.exponent = -fs.length

theorem positional_cases (x : Decimal) :
    0 ≤ x.exponent ∧ WritesWhole x (positional x) ∨
      ∃ ds fs, positional x = ds ++ '.' :: fs ∧ WritesPoint x ds fs := by
  have hne : x.digits ≠ [] := Nat.toDigits_ne_nil
  unfold positional
  split
  · rename_i h
    have hds := isDigit_of_mem_digits x 0 x.exponent.toNat
    have hvalue := ofDigitChars_digits x 0 x.exponent.toNat
    rw [List.replicate_zero, List.nil_append] at hds hvalue
    exact .inl ⟨h, by simp [hne], hds, hvalue⟩
  · rename_i h
    dsimp only
    generalize hplaces : (-x.exponent).toNat = places
    have hds := isDigit_of_mem_digits x (places + 1 - x.digits.length) 0
    have hvalue := ofDigitChars_digits x (places + 1 - x.digits.length) 0
    rw [List.replicate_zero, List.append_nil] at hds hvalue
    have hlen : places + 1 ≤ (List.replicate (places + 1 - x.digits.length) '0' ++ x.digits).length := by
      rw [List.length_append, List.length_replicate]
      omega
    generalize List.replicate (places + 1 - x.digits.length) '0' ++ x.digits = ds at hds hvalue hlen
    refine .inr ⟨_, _, rfl, ?_, ?_, ?_, ?_⟩
    · rw [ne_eq, List.take_eq_nil_iff]
      rintro (h0 | rfl)
      · omega
      · simp at hlen
    · rw [List.take_append_drop]
      exact hds
    · rw [List.take_append_drop, hvalue, Nat.pow_zero, Nat.mul_one]
    · rw [List.length_drop]
      omega

theorem mem_positional {x : Decimal} {c : Char} (h : c ∈ positional x) : c.isDigit ∨ c = '.' := by
  rcases positional_cases x with ⟨-, hx⟩ | ⟨ds, fs, heq, hx⟩
  · exact .inl (hx.isDigit c h)
  · rw [heq, List.mem_append, List.mem_cons] at h
    rcases h with h | rfl | h
    · exact .inl (hx.isDigit c (List.mem_append_left fs h))
    · exact .inr rfl
    · exact .inl (hx.isDigit c (List.mem_append_right ds h))

theorem exists_positional_eq_cons (x : Decimal) : ∃ c cs, positional x = c :: cs ∧ c.isDigit := by
  rcases positional_cases x with ⟨-, hx⟩ | ⟨ds, fs, heq, hx⟩
  · obtain ⟨c, cs, hcs⟩ := List.exists_cons_of_ne_nil hx.ne_nil
    exact ⟨c, cs, hcs, hx.isDigit c (by rw [hcs]; exact List.mem_cons_self)⟩
  · obtain ⟨c, cs, rfl⟩ := List.exists_cons_of_ne_nil hx.ne_nil
    exact ⟨c, cs ++ '.' :: fs, heq, hx.isDigit c List.mem_cons_self⟩

/-! ## One word -/

theorem isWord_sign_append {cs : List Char} (h : IsWord cs) (plus negative : Bool) :
    IsWord (sign plus negative ++ cs) := by
  have hsign : IsWord ['-', '+'] := by decide +kernel
  refine ⟨by simp [h.1], fun c hc => ?_⟩
  rcases List.mem_append.mp hc with hc | hc
  · refine hsign.2 c ?_
    unfold sign at hc
    split_ifs at hc <;> simp_all
  · exact h.2 c hc

theorem isWord_positional (x : Decimal) : IsWord (positional x) := by
  obtain ⟨d, ds, hds, -⟩ := exists_positional_eq_cons x
  refine ⟨by rw [hds]; exact List.cons_ne_nil d ds, fun c hc => ?_⟩
  rcases mem_positional hc with hc | rfl
  · exact isBlank_of_isDigit hc
  · decide +kernel

theorem isWord_text (x : Float) : IsWord (text {} x).toList := by
  rw [toList_text]
  cases Binary.ofFloat x with
  | nan =>
    rw [layOutNumber, layOut_default]
    decide +kernel
  | infinite negative =>
    rw [layOutNumber, layOut_default]
    exact isWord_sign_append (by decide +kernel) _ _
  | finite negative m e =>
    rw [layOutNumber, layOut_default]
    exact isWord_sign_append (isWord_positional _) _ _

end Dimensional.Number
