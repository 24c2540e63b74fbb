import Dimensional.Proofs.Composition.Reading
import Dimensional.Proofs.Text.Words

/-!
# Blanks in composed names

The only blanks of a composed name are the spaces between factors, so it starts and ends with none.
-/

namespace Dimensional.Composition

open Text

theorem isBlank_of_mem_decimal {n : Nat} {c : Char} (h : c ∈ Nat.toDigits 10 n) : isBlank c = false :=
  isBlank_of_isDigit (isDigit_of_mem_decimal c h)

theorem isBlank_of_mem_writePower {num den : Nat} {c : Char} (h : c ∈ writePower num den) :
    isBlank c = false := by
  have hmark : IsWord ['^', '(', '/', ')'] := by decide +kernel
  simp only [IsWord, List.forall_mem_cons] at hmark
  obtain ⟨-, hcaret, hopen, hslash, hclose, -⟩ := hmark
  unfold writePower at h
  split_ifs at h
  · contradiction
  · rcases List.mem_cons.mp h with rfl | h
    · exact hcaret
    · exact isBlank_of_mem_decimal h
  · simp only [List.mem_cons, List.mem_append, List.not_mem_nil, or_false] at h
    rcases h with rfl | rfl | h | rfl | h | rfl
    · exact hcaret
    · exact hopen
    · exact isBlank_of_mem_decimal h
    · exact hslash
    · exact isBlank_of_mem_decimal h
    · exact hclose

theorem isWord_write (p : Factor) : IsWord p.write := by
  constructor
  · obtain ⟨c, cs, h, -⟩ := exists_write_eq_cons p
    rw [h]
    exact List.cons_ne_nil c cs
  · intro c hc
    rcases List.mem_append.mp hc with hc | hc
    · exact isBlank_of_isAlpha (isAlpha_of_mem_symbol p.base c hc)
    · exact isBlank_of_mem_writePower hc

theorem isTrimmed_writeFactors {ps : List Factor} (h : ps ≠ []) : IsTrimmed (writeFactors ps) := by
  fun_induction writeFactors ps with
  | case1 => contradiction
  | case2 p => exact (isWord_write p).isTrimmed
  | case3 p q ps ih => exact (isWord_write p).isTrimmed.append_cons (ih (List.cons_ne_nil q ps)) ' '

theorem isTrimmed_writeFraction {above below : List Factor} (h : writeFraction above below ≠ []) :
    IsTrimmed (writeFraction above below) := by
  have hone : IsWord ['1'] := by decide +kernel
  by_cases hb : below = []
  · subst hb
    rw [writeFraction] at h ⊢
    refine isTrimmed_writeFactors ?_
    rintro rfl
    contradiction
  · by_cases ha : above = []
    · subst ha
      rw [writeFraction]
      · exact hone.isTrimmed.append_cons (isTrimmed_writeFactors hb) '/'
      · exact hb
    · rw [writeFraction]
      · exact (isTrimmed_writeFactors ha).append_cons (isTrimmed_writeFactors hb) '/'
      · exact ha
      · exact hb

end Dimensional.Composition
