import Mathlib.Data.List.Basic
import Dimensional.Proofs.Exponent.Value
import Dimensional.Proofs.Text.Decimal

/-!
# Texts of exponents

The stored form is written by both of its numbers, so it tells them. The text in lowest terms tells the
value: it has a slash exactly if the value is no whole number.
-/

namespace Dimensional.Exponent

variable {a b : Exponent} {c : Char}

/-! ## Characters -/

/-- The character occurs in texts of exponents. -/
def IsTextChar (c : Char) : Prop := c = '-' ∨ c = '/' ∨ c.isDigit

theorem comma_not_isTextChar : ¬ IsTextChar ',' := by
  simp [IsTextChar]

theorem space_not_isTextChar : ¬ IsTextChar ' ' := by
  simp [IsTextChar]

theorem slash_not_mem_toString (n : ℤ) : '/' ∉ (toString n).toList := by
  intro h
  rcases Text.mem_toString h with h | h <;> simp at h

theorem toList_stored (a : Exponent) :
    a.stored.toList = (toString a.num).toList ++ '/' :: (toString a.den).toList := by
  simp [stored]

theorem slash_mem_stored (a : Exponent) : '/' ∈ a.stored.toList := by
  simp [toList_stored]

theorem isTextChar_of_mem_stored (h : c ∈ a.stored.toList) : IsTextChar c := by
  rw [toList_stored, List.mem_append, List.mem_cons] at h
  rcases h with h | rfl | h
  · exact (Text.mem_toString h).imp_right .inr
  · exact .inr (.inl rfl)
  · exact (Text.mem_toString h).imp_right .inr

theorem isTextChar_of_mem_text (h : c ∈ a.text.toList) : IsTextChar c := by
  simp only [text] at h
  split at h
  · exact (Text.mem_toString h).imp_right .inr
  · exact isTextChar_of_mem_stored h

/-! ## Reading the numbers off -/

theorem stored_inj : a.stored = b.stored ↔ a = b := by
  constructor
  · intro h
    rw [← String.toList_inj, toList_stored, toList_stored,
      List.append_cons_inj_of_notMem (slash_not_mem_toString _) (slash_not_mem_toString _)] at h
    obtain ⟨hnum, -, hden⟩ := h
    rw [String.toList_inj, Text.toString_inj] at hnum hden
    exact eq_of_num_den hnum hden
  · rintro rfl
    rfl

theorem text_eq_iff : a.text = b.text ↔ a.Matches b := by
  rw [matches_iff_value_eq, ← reduce_eq_iff_value_eq]
  constructor
  · intro h
    simp only [text] at h
    split_ifs at h with ha hb hb
    · rw [Text.toString_inj] at h
      exact eq_of_num_den h (ha.trans hb.symm)
    · exact absurd (h ▸ slash_mem_stored b.reduce) (slash_not_mem_toString _)
    · exact absurd (h ▸ slash_mem_stored a.reduce) (slash_not_mem_toString _)
    · exact stored_inj.mp h
  · intro h
    rw [text, text, h]

end Dimensional.Exponent
