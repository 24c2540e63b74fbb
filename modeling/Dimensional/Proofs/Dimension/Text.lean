import Dimensional.Proofs.Exponent.Text
import Dimensional.Proofs.Matching
import Dimensional.Proofs.Text.Rows

/-!
# Texts of dimensions

The description, the exponent form and the stored form are rows with an item for each slot. An item tells
its slot and an exponent, so the rows tell the dimension: the first two its values, the last one its
stored numbers.
-/

namespace Dimensional

open Text

/-! ## Slots -/

namespace Dimension

variable {v w : Dimension}

/-- The slots that are not zero. -/
def nonzero (v : Dimension) : List BaseDimension :=
  BaseDimension.all.filter fun b => ¬ (v.exponent b).IsZero

theorem mem_nonzero {b : BaseDimension} : b ∈ v.nonzero ↔ ¬ (v.exponent b).IsZero := by
  simp [nonzero, BaseDimension.mem_all]

theorem matches_of_items_eq {item : BaseDimension → Exponent → String}
    (hitem : ∀ b c e f, item b e = item c f → b = c ∧ e.Matches f)
    (h : v.nonzero.map (fun b => item b (v.exponent b)) = w.nonzero.map fun b => item b (w.exponent b)) :
    v.Matches w := by
  intro b
  by_cases hv : (v.exponent b).IsZero
  · by_cases hw : (w.exponent b).IsZero
    · rw [Exponent.matches_iff_value_eq, Exponent.isZero_iff_value.mp hv, Exponent.isZero_iff_value.mp hw]
    · -- an item of `w` in this slot would be one of `v`
      have hmem := List.mem_map_of_mem (f := fun b => item b (w.exponent b)) (mem_nonzero.mpr hw)
      rw [← h] at hmem
      obtain ⟨c, hc, heq⟩ := List.mem_map.mp hmem
      obtain ⟨rfl, -⟩ := hitem _ _ _ _ heq
      exact absurd hv (mem_nonzero.mp hc)
  · have hmem := List.mem_map_of_mem (f := fun b => item b (v.exponent b)) (mem_nonzero.mpr hv)
    rw [h] at hmem
    obtain ⟨c, -, heq⟩ := List.mem_map.mp hmem
    obtain ⟨rfl, hm⟩ := hitem _ _ _ _ heq
    exact hm.symm

end Dimension

/-! ## Labelled items -/

namespace BaseDimension

theorem label_injective : ∀ b c : BaseDimension, b.label = c.label → b = c := by
  decide

theorem symbol_injective : ∀ b c : BaseDimension, b.symbol = c.symbol → b = c := by
  decide

theorem equals_not_mem_label : ∀ b : BaseDimension, '=' ∉ b.label.toList := by
  decide

theorem comma_not_mem_label : ∀ b : BaseDimension, ',' ∉ b.label.toList := by
  decide

end BaseDimension

namespace Dimension

variable {v w : Dimension} {b c : BaseDimension} {s t : String}

theorem toList_labelled (b : BaseDimension) (s : String) :
    (b.label ++ "=" ++ s).toList = b.label.toList ++ '=' :: s.toList := by
  simp

theorem labelled_inj (h : b.label ++ "=" ++ s = c.label ++ "=" ++ t) : b = c ∧ s = t := by
  rw [← String.toList_inj, toList_labelled, toList_labelled] at h
  obtain ⟨hlabel, hs⟩ := before_inj b.equals_not_mem_label c.equals_not_mem_label (stops_cons (by simp))
    (stops_cons (by simp)) h
  exact ⟨b.label_injective c (String.toList_inj.mp hlabel),
    String.toList_inj.mp (List.cons_inj_right '=' |>.mp hs)⟩

theorem isItem_labelled (b : BaseDimension) (hs : ∀ c ∈ s.toList, Exponent.IsTextChar c) :
    IsItem ',' (b.label ++ "=" ++ s) := by
  constructor
  · intro h
    simp at h
  · rw [toList_labelled, List.mem_append, List.mem_cons]
    rintro (h | h | h)
    · exact b.comma_not_mem_label h
    · contradiction
    · exact Exponent.comma_not_isTextChar (hs _ h)

theorem describe_eq_iff : v.describe = w.describe ↔ v.Matches w := by
  constructor
  · intro h
    unfold describe at h
    rw [String.append_left_inj, String.append_right_inj] at h
    have hitem : ∀ (b : BaseDimension) (e : Exponent), IsItem ',' (b.label ++ "=" ++ e.text) :=
      fun b _ => isItem_labelled b fun _ => Exponent.isTextChar_of_mem_text
    have htells : ∀ (b c : BaseDimension) (e f : Exponent),
        b.label ++ "=" ++ e.text = c.label ++ "=" ++ f.text → b = c ∧ e.Matches f :=
      fun _ _ _ _ heq => (labelled_inj heq).imp_right Exponent.text_eq_iff.mp
    exact matches_of_items_eq htells (row_map_inj rfl (fun b => hitem b _) (fun b => hitem b _) h)
  · exact describe_congr

theorem stored_eq_iff : v.stored = w.stored ↔ v = w := by
  constructor
  · intro h
    unfold stored at h
    have hitem : ∀ (b : BaseDimension) (e : Exponent), IsItem ',' (b.label ++ "=" ++ e.stored) :=
      fun b _ => isItem_labelled b fun _ => Exponent.isTextChar_of_mem_stored
    have hitems := row_map_inj rfl (fun b => hitem b _) (fun b => hitem b _) h
    apply ext_exponent
    intro b
    exact Exponent.stored_inj.mp (labelled_inj (List.map_inj_left.mp hitems b b.mem_all)).2
  · rintro rfl
    rfl

end Dimension

/-! ## The exponent form -/

namespace Composition

/-- What stands behind the symbol of a slot in the exponent form. -/
def signedPower (e : Exponent) : String :=
  if e.IsOne then "" else "^" ++ e.text

theorem isOne_reduce {e : Exponent} : e.reduce.IsOne ↔ e.IsOne := by
  rw [Exponent.isOne_iff_value, Exponent.value_reduce, Exponent.isOne_iff_value]

theorem signedTerm_reduce (b : BaseDimension) (e : Exponent) :
    signedTerm b e.reduce = b.symbol ++ signedPower e := by
  unfold signedTerm signedPower Exponent.text Exponent.stored
  simp only [isOne_reduce]
  split_ifs
  · rw [String.append_empty]
  · rw [String.append_assoc]
  · simp only [String.append_assoc]

theorem signedPower_inj {e f : Exponent} (h : signedPower e = signedPower f) : e.Matches f := by
  unfold signedPower at h
  split_ifs at h with he hf hf
  · rw [Exponent.matches_iff_value_eq, Exponent.isOne_iff_value.mp he, Exponent.isOne_iff_value.mp hf]
  · simp at h
  · simp at h
  · exact Exponent.text_eq_iff.mp ((String.append_right_inj _).mp h)

theorem mem_signedPower {e : Exponent} {c : Char} (h : c ∈ (signedPower e).toList) :
    c = '^' ∨ Exponent.IsTextChar c := by
  unfold signedPower at h
  split_ifs at h
  · simp at h
  · rw [String.toList_append, List.mem_append] at h
    exact h.imp (by simp) Exponent.isTextChar_of_mem_text

theorem stops_signedPower (e : Exponent) : Stops Char.isAlpha (signedPower e).toList := by
  unfold signedPower
  split_ifs
  · exact stops_nil
  · rw [String.toList_append]
    exact stops_cons (by decide)

theorem signedTerm_inj {b c : BaseDimension} {e f : Exponent}
    (h : signedTerm b e.reduce = signedTerm c f.reduce) : b = c ∧ e.Matches f := by
  rw [signedTerm_reduce, signedTerm_reduce, ← String.toList_inj, String.toList_append,
    String.toList_append] at h
  obtain ⟨hsymbol, hpower⟩ := run_append_inj (isAlpha_of_mem_symbol b) (isAlpha_of_mem_symbol c)
    (stops_signedPower e) (stops_signedPower f) h
  exact ⟨b.symbol_injective c (String.toList_inj.mp hsymbol),
    signedPower_inj (String.toList_inj.mp hpower)⟩

theorem isItem_signedTerm (b : BaseDimension) (e : Exponent) : IsItem ' ' (signedTerm b e.reduce) := by
  rw [signedTerm_reduce]
  constructor
  · cases b <;> simp [BaseDimension.symbol]
  · rw [String.toList_append, List.mem_append]
    rintro (h | h)
    · have := isAlpha_of_mem_symbol b _ h
      contradiction
    · rcases mem_signedPower h with h | h
      · contradiction
      · exact Exponent.space_not_isTextChar h

theorem exponents_eq_iff {v w : Dimension} : exponents v = exponents w ↔ v.Matches w := by
  constructor
  · intro h
    unfold exponents at h
    have htells : ∀ (b c : BaseDimension) (e f : Exponent),
        signedTerm b e.reduce = signedTerm c f.reduce → b = c ∧ e.Matches f :=
      fun _ _ _ _ => signedTerm_inj
    have hitems := row_map_inj rfl (fun b => isItem_signedTerm b _) (fun b => isItem_signedTerm b _) h
    exact Dimension.matches_of_items_eq htells hitems
  · exact exponents_congr

end Composition

end Dimensional
