import Dimensional.Proofs.Exponent.Text
import Dimensional.Proofs.Marker.Exponent
import Dimensional.Proofs.Text.Words

/-!
# Printed exponents as fractions

A text of an exponent spells a fraction. The stored form spells the numbers that are stored, and the text in
lowest terms those in lowest terms.
-/

namespace Dimensional.Marker

/-! ## Whole numbers -/

theorem isDecimal_toDigits (n : Nat) : IsDecimal (Nat.toDigits 10 n) where
  ne_nil := Nat.toDigits_ne_nil
  isDigit := Text.isDigit_of_mem_decimal

theorem spells_toString (n : Int) : Spells (toString n).toList n := by
  rw [Text.toList_toString]
  split_ifs with hneg
  · rw [List.singleton_append, spells_minus, Nat.ofDigitChars_ten_toDigits]
    exact ⟨isDecimal_toDigits _, by omega⟩
  · have h := Spells.unsigned (isDecimal_toDigits n.natAbs)
    rwa [Nat.ofDigitChars_ten_toDigits, Int.natAbs_of_nonneg (Int.not_lt.mp hneg)] at h

theorem isBlank_of_mem_toString {n : Int} {c : Char} (h : c ∈ (toString n).toList) :
    Text.isBlank c = false := by
  rcases Text.mem_toString h with rfl | h
  · exact Text.isBlank_of_printable (by decide) (by decide)
  · exact Text.isBlank_of_isDigit h

theorem spells_trimBlanks_toString (n : Int) : Spells (Text.trimBlanks (toString n).toList) n := by
  rw [Text.trimBlanks_of_not_isBlank fun _ => isBlank_of_mem_toString]
  exact spells_toString n

/-! ## Fractions -/

theorem spellsFraction_whole (n : Int) : SpellsFraction (toString n).toList n 1 :=
  .whole (Exponent.slash_not_mem_toString n) (spells_trimBlanks_toString n)

theorem spellsFraction_pair (n d : Int) : SpellsFraction (toString n ++ "/" ++ toString d).toList n d := by
  have htext : (toString n ++ "/" ++ toString d).toList =
      (toString n).toList ++ '/' :: (toString d).toList := by simp
  rw [htext]
  exact .divided (Exponent.slash_not_mem_toString n) (spells_trimBlanks_toString n)
    (spells_trimBlanks_toString d)

theorem spellsFraction_stored (e : Exponent) : SpellsFraction e.stored.toList e.num e.den :=
  spellsFraction_pair e.num e.den

theorem spellsFraction_text (e : Exponent) : SpellsFraction e.text.toList e.reduce.num e.reduce.den := by
  simp only [Exponent.text]
  split_ifs with hwhole
  · rw [hwhole]
    exact spellsFraction_whole e.reduce.num
  · exact spellsFraction_stored e.reduce

end Dimensional.Marker
