import Mathlib.Tactic.SplitIfs
import Dimensional.Proofs.Text.Runs

/-!
# Decimal texts of whole numbers

A whole number is written by its digits, with a minus before them if it is negative. So its text tells
the number, and holds no other characters.
-/

namespace Dimensional.Text

theorem toList_toString (n : Int) :
    (toString n).toList = (if n < 0 then ['-'] else []) ++ Nat.toDigits 10 n.natAbs := by
  rw [Int.toString_eq_repr, Int.repr_eq_if]
  split_ifs with hle hlt hlt
  · omega
  · rw [Nat.toList_repr, List.nil_append]
    congr 1
    omega
  · rw [String.toList_append, Nat.toList_repr]
    congr 2
    omega
  · omega

theorem toList_toString_of_nonneg {n : Int} (h : 0 ≤ n) :
    (toString n).toList = Nat.toDigits 10 n.natAbs := by
  rw [toList_toString, if_neg (by omega), List.nil_append]

theorem minus_not_mem_decimal (n : Nat) : '-' ∉ Nat.toDigits 10 n := by
  intro h
  have := isDigit_of_mem_decimal _ h
  simp at this

theorem mem_toString {n : Int} {c : Char} (h : c ∈ (toString n).toList) : c = '-' ∨ c.isDigit := by
  rw [toList_toString, List.mem_append] at h
  rcases h with h | h
  · split_ifs at h
    · exact .inl (List.mem_singleton.mp h)
    · contradiction
  · exact .inr (isDigit_of_mem_decimal c h)

theorem decimal_inj {n m : Nat} (h : Nat.toDigits 10 n = Nat.toDigits 10 m) : n = m := by
  rw [← Nat.ofDigitChars_ten_toDigits (n := n), h, Nat.ofDigitChars_ten_toDigits]

theorem toString_inj {n m : Int} : toString n = toString m ↔ n = m := by
  constructor
  · intro h
    rw [← String.toList_inj, toList_toString, toList_toString] at h
    split_ifs at h with hn hm hm
    · have := decimal_inj (List.append_cancel_left h)
      omega
    · rw [List.nil_append] at h
      exact absurd (h ▸ List.mem_cons_self) (minus_not_mem_decimal m.natAbs)
    · rw [List.nil_append] at h
      exact absurd (h ▸ List.mem_cons_self) (minus_not_mem_decimal n.natAbs)
    · have := decimal_inj (List.append_cancel_left h)
      omega
  · rintro rfl
    rfl

end Dimensional.Text
