import Mathlib.Data.List.Basic
import Dimensional.Proofs.UnitName

/-!
# Where a composed name stops

The fraction form takes the magnitude of an exponent before it reduces it, so it stops at the least
stored numerator. Two matching dimensions have one fraction form exactly if it stops at the same slot of
both, or at none. The slot depends on how the exponents are stored.
-/

namespace Dimensional

namespace Composition

variable {v w : Dimension}

/-- The first slot whose magnitude cannot be stored. -/
def stop? (v : Dimension) : Option BaseDimension :=
  BaseDimension.all.find? fun b => (v.exponent b).num = -2 ^ 31

theorem stop?_eq_none : stop? v = none ↔ Writable v := by
  simp only [stop?, List.find?_eq_none, decide_eq_true_eq, BaseDimension.mem_all, forall_const]
  rfl

theorem num_of_stop? {b : BaseDimension} (h : stop? v = some b) : (v.exponent b).num = -2 ^ 31 := by
  have := List.find?_some h
  exact of_decide_eq_true this

theorem fault_fraction (v : Dimension) :
    (fraction v).fault = (stop? v).map fun _ => .negationOverflow := by
  cases h : stop? v with
  | none => exact fault_fraction_of_writable (stop?_eq_none.mp h)
  | some b => exact fault_fraction_of_least (num_of_stop? h)

/-! ## The factors below the slash -/

theorem isSome_fault_term (b : BaseDimension) (e : Exponent) :
    (term b e).fault.isSome = decide (e.num = -2 ^ 31) := by
  by_cases h : e.num = -2 ^ 31
  · rw [fault_term_of_eq h, decide_eq_true h]
    rfl
  · rw [fault_term_of_ne h, decide_eq_false h]
    rfl

theorem num_of_fault_term {b : BaseDimension} {e : Exponent} (h : (term b e).fault = none) :
    e.num ≠ -2 ^ 31 := by
  have := isSome_fault_term b e
  rw [h] at this
  exact of_decide_eq_false this.symm

theorem written_term_congr {b : BaseDimension} {e f : Exponent} (h : e.value = f.value)
    (he : (term b e).fault = none) (hf : (term b f).fault = none) :
    (term b e).written = (term b f).written := by
  rw [← String.toList_inj, toList_term (num_of_fault_term he), toList_term (num_of_fault_term hf),
    Factor.of, Factor.of, Exponent.reduce_eq_iff_value_eq.mpr h]

theorem written_item_congr {b : BaseDimension} {e f : Exponent} (h : e.value = f.value)
    (he : (Rendering.piece " " ++ term b e).fault = none)
    (hf : (Rendering.piece " " ++ term b f).fault = none) :
    (Rendering.piece " " ++ term b e).written = (Rendering.piece " " ++ term b f).written := by
  rw [Rendering.fault_piece_append] at he hf
  rw [Rendering.written_piece_append, Rendering.written_piece_append, written_term_congr h he hf]

theorem isItem_term (b : BaseDimension) (e : Exponent) :
    (Rendering.piece " " ++ term b e).IsItem " " := by
  refine ⟨(term b e).written, Rendering.written_piece_append _ _, ?_⟩
  rw [Rendering.fault_piece_append, isSome_fault_term, decide_eq_true_eq]
  constructor
  · intro h
    by_contra hne
    have := toList_term (b := b) hne
    obtain ⟨c, cs, hc, -⟩ := exists_write_eq_cons (.of b e)
    rw [h, hc] at this
    simp at this
  · intro h
    simp only [term, Exponent.abs_of_least h]
    rfl

theorem filter_negative_congr (h : v.Matches w) :
    BaseDimension.all.filter (fun b => decide (v.exponent b).IsNegative) =
      BaseDimension.all.filter (fun b => decide (w.exponent b).IsNegative) := by
  have hvalue := Dimension.matches_iff.mp h
  unfold Dimension.value at hvalue
  simp only [Exponent.isNegative_iff_value, hvalue]

theorem find?_negative (v : Dimension) :
    (BaseDimension.all.filter fun b => decide (v.exponent b).IsNegative).find?
      (fun b => (Rendering.piece " " ++ term b (v.exponent b)).fault.isSome) = stop? v := by
  rw [List.find?_filter, stop?]
  congr 1
  funext b
  simp only [Rendering.fault_piece_append, isSome_fault_term, decide_eq_true_eq]
  apply decide_eq_decide.mpr
  unfold Exponent.IsNegative
  omega

theorem written_terms_negative_eq_iff (h : v.Matches w) :
    (terms v (decide ·.IsNegative)).written = (terms w (decide ·.IsNegative)).written ↔
      stop? v = stop? w := by
  have hvalue : ∀ b, (v.exponent b).value = (w.exponent b).value := Dimension.matches_iff.mp h
  have hv := find?_negative v
  have hw := find?_negative w
  rw [← filter_negative_congr h] at hw
  rw [← hv, ← hw, terms, terms, ← filter_negative_congr h]
  cases BaseDimension.all.filter fun b => decide (v.exponent b).IsNegative with
  | nil => exact iff_of_true rfl rfl
  | cons b bs =>
    rw [← Rendering.written_concat_eq_iff (fun c _ => isItem_term c _) (fun c _ => isItem_term c _)
      fun c _ => written_item_congr (hvalue c), List.map_cons, List.map_cons, Rendering.written_intercalate_eq_iff]
    simp only [List.map_cons, List.map_map, Function.comp_def]

theorem terms_of_factors_eq_nil {pick : Exponent → Bool} (h : factors v pick = []) :
    terms v pick = .empty := by
  rw [factors, List.map_eq_nil_iff] at h
  rw [terms, h]
  rfl

theorem written_terms_positive_congr (h : v.Matches w) :
    (terms v (decide ·.IsPositive)).written = (terms w (decide ·.IsPositive)).written := by
  rw [← String.toList_inj, toList_terms_positive, toList_terms_positive, above_eq_of_matches h]

theorem written_fraction_eq_iff (h : v.Matches w) :
    (fraction v).written = (fraction w).written ↔ stop? v = stop? w := by
  have hpositive := written_terms_positive_congr h
  rw [← written_terms_negative_eq_iff h, fraction_eq v, fraction_eq w, above_eq_of_matches h,
    below_eq_of_matches h]
  by_cases hb : below w = []
  · rw [if_pos hb, if_pos hb, terms_of_factors_eq_nil hb,
      terms_of_factors_eq_nil ((below_eq_of_matches h).trans hb)]
    split_ifs
    · rfl
    · exact iff_of_true hpositive rfl
  · rw [if_neg hb, if_neg hb]
    split_ifs
    · simp only [Rendering.written_piece_append, String.append_right_inj]
    · simp only [Rendering.written_append (fault_terms_positive _), hpositive,
        Rendering.written_piece_append, String.append_right_inj]

theorem matchesText_fraction_eq_iff (h : v.Matches w) :
    (∀ t, (fraction v).matchesText t = (fraction w).matchesText t) ↔ stop? v = stop? w := by
  rw [Rendering.matchesText_eq_iff, fault_fraction, fault_fraction, written_fraction_eq_iff h]
  constructor
  · exact And.right
  · intro hstop
    exact ⟨by rw [hstop], hstop⟩

/-! ## What is written before the stop -/

/-- The slots before `b`. -/
def slotsBefore (b : BaseDimension) : List BaseDimension :=
  BaseDimension.all.takeWhile (· ≠ b)

/-- What the fraction form writes up to the slot `b`: all that stands above the slash, the slash, and the
earlier factors below it with a space behind each. -/
def writtenBefore (v : Dimension) (b : BaseDimension) : List Char :=
  (if above v = [] then ['1'] else writeFactors (above v)) ++
    '/' :: ((slotsBefore b).filter fun c => (v.exponent c).IsNegative).flatMap
      fun c => (Factor.of c (v.exponent c)).write ++ [' ']

theorem all_of_stop? {b : BaseDimension} (h : stop? v = some b) :
    (∃ after, BaseDimension.all = slotsBefore b ++ b :: after) ∧
      ∀ c ∈ slotsBefore b, (v.exponent c).num ≠ -2 ^ 31 := by
  obtain ⟨hb, before, after, hall, hbefore⟩ := List.find?_eq_some_iff_append.mp h
  simp only [decide_eq_true_eq, Bool.not_eq_true', decide_eq_false_iff_not] at hb hbefore
  have hrun : ∀ c ∈ before, decide (c ≠ b) = true := fun c hc => by
    rw [decide_eq_true_eq]
    rintro rfl
    exact hbefore c hc hb
  have hslots : slotsBefore b = before := by
    rw [slotsBefore, hall, Text.takeWhile_run hrun (Text.stops_cons (by simp))]
  rw [hslots]
  exact ⟨⟨after, hall⟩, hbefore⟩

theorem written_terms_negative_of_stop? {b : BaseDimension} (h : stop? v = some b) :
    (terms v (decide ·.IsNegative)).written.toList =
      ((slotsBefore b).filter fun c => (v.exponent c).IsNegative).flatMap
        fun c => (Factor.of c (v.exponent c)).write ++ [' '] := by
  obtain ⟨⟨after, hall⟩, hbefore⟩ := all_of_stop? h
  have hleast := num_of_stop? h
  have hmem : ∀ c ∈ (slotsBefore b).filter (fun c => decide (v.exponent c).IsNegative),
      (v.exponent c).num ≠ -2 ^ 31 := fun c hc => hbefore c (List.mem_filter.mp hc).1
  have hfault : ∀ q ∈ ((slotsBefore b).filter fun c => decide (v.exponent c).IsNegative).map
      (fun c => term c (v.exponent c)), q.fault = none := by
    rintro _ hq
    obtain ⟨c, hc, rfl⟩ := List.mem_map.mp hq
    exact fault_term_of_ne (hmem c hc)
  have hstop : (term b (v.exponent b)).written = "" := by
    simp only [term, Exponent.abs_of_least hleast]
    rfl
  rw [terms, hall, List.filter_append, List.filter_cons, if_pos (isNegative_of_least hleast), List.map_append,
    List.map_cons,
    Rendering.written_intercalate_of_fault " " hfault (fault_term_of_eq hleast), hstop, String.append_empty,
    String.toList_join, List.map_map, List.flatMap_map]
  refine List.flatMap_congr fun c hc => ?_
  rw [Function.comp_apply, String.toList_append, toList_term (hmem c hc)]
  rfl

theorem written_fraction_of_stop? {b : BaseDimension} (h : stop? v = some b) :
    (fraction v).written.toList = writtenBefore v b := by
  rw [fraction_eq, if_neg (below_ne_nil_of_least (num_of_stop? h)), writtenBefore,
    ← written_terms_negative_of_stop? h]
  split_ifs
  · simp only [Rendering.written_piece_append, String.toList_append]
    rfl
  · rw [Rendering.written_append (fault_terms_positive v), Rendering.written_piece_append,
      String.toList_append, String.toList_append, toList_terms_positive]
    rfl

end Composition

/-! ## The name of a dimension -/

namespace UnitName

open Dimensional.Composition Registry

variable {v w : Dimension}

theorem exists_text_composed : (∃ s, (composed v).text = .ok s) ↔ Writable v := by
  constructor
  · rintro ⟨s, hs⟩
    exact (text_composed_eq_ok.mp hs).1
  · intro hw
    exact ⟨_, text_composed_eq_ok.mpr ⟨hw, String.toList_ofList⟩⟩

theorem text_composed_of_not_writable (h : ¬ Writable v) :
    (composed v).text = .error .negationOverflow := by
  rw [Writable, not_forall] at h
  obtain ⟨b, hb⟩ := h
  exact text_composed_eq_error.mpr ⟨b, not_not.mp hb⟩

theorem text_composed_eq_iff (h : v.Matches w) :
    (composed v).text = (composed w).text ↔ (Writable v ↔ Writable w) := by
  constructor
  · intro heq
    rw [← exists_text_composed, ← exists_text_composed, heq]
  · intro hiff
    by_cases hv : Writable v
    · obtain ⟨s, hs⟩ := exists_text_composed.mpr hv
      obtain ⟨t, ht⟩ := exists_text_composed.mpr (hiff.mp hv)
      rw [hs, ht, (text_composed_inj hs ht).mpr h]
    · rw [text_composed_of_not_writable hv, text_composed_of_not_writable (mt hiff.mpr hv)]

theorem forDimension_cases (h : v.Matches w) :
    IsRegistered v ∧ forDimension v = forDimension w ∨
      ¬ IsRegistered v ∧ forDimension v = composed v ∧ forDimension w = composed w := by
  have hlookup := lookup_congr h
  cases hv : lookup v with
  | some s =>
    left
    refine ⟨isRegistered_of_lookup hv, ?_⟩
    rw [forDimension_of_lookup hv, forDimension_of_lookup (hlookup.symm.trans hv)]
  | none =>
    right
    exact ⟨not_isRegistered_of_lookup hv, forDimension_of_none hv,
      forDimension_of_none (hlookup.symm.trans hv)⟩

theorem text_congr_of_stop? (h : v.Matches w) (hstop : stop? v = stop? w) :
    (forDimension v).text = (forDimension w).text := by
  rcases forDimension_cases h with ⟨-, heq⟩ | ⟨-, hv, hw⟩
  · rw [heq]
  · rw [hv, hw, text_composed_eq_iff h, ← stop?_eq_none, ← stop?_eq_none, hstop]

theorem matchesText_congr_of_stop? (h : v.Matches w) (hstop : stop? v = stop? w) (t : String) :
    (forDimension v).matchesText t = (forDimension w).matchesText t := by
  rcases forDimension_cases h with ⟨-, heq⟩ | ⟨-, hv, hw⟩
  · rw [heq]
  · rw [hv, hw]
    exact (matchesText_fraction_eq_iff h).mpr hstop t

/-- The names of matching dimensions have one text exactly if they are registered, or the least numerator
is stored in both dimensions or in neither. They answer all comparisons alike exactly if they are
registered, or the same slot stops both. -/
theorem forDimension_of_matches (h : v.Matches w) :
    ((forDimension v).text = (forDimension w).text ↔ IsRegistered v ∨ (Writable v ↔ Writable w)) ∧
    ((∀ t, (forDimension v).matchesText t = (forDimension w).matchesText t) ↔
      IsRegistered v ∨ stop? v = stop? w) := by
  rcases forDimension_cases h with ⟨hreg, heq⟩ | ⟨hreg, hv, hw⟩
  · rw [heq]
    exact ⟨iff_of_true rfl (.inl hreg), iff_of_true (fun _ => rfl) (.inl hreg)⟩
  · rw [hv, hw, or_iff_right hreg, or_iff_right hreg]
    exact ⟨text_composed_eq_iff h, matchesText_fraction_eq_iff h⟩

theorem forDimension_of_matches_square_metre :
    let v : Dimension := { length := .whole (-2) }
    let w : Dimension := { length := ⟨-4, 2, by decide, by decide, by decide, by decide⟩ }
    (forDimension v).text = (forDimension w).text ∧
      ∀ t, (forDimension v).matchesText t = (forDimension w).matchesText t := by
  intro v w
  obtain ⟨htext, hmatches⟩ := forDimension_of_matches (v := v) (w := w) (by decide +kernel)
  have hstop : stop? v = none ∧ stop? w = none := by decide +kernel
  refine ⟨htext.mpr (.inr ?_), hmatches.mpr (.inr (hstop.1.trans hstop.2.symm))⟩
  rw [← stop?_eq_none, ← stop?_eq_none]
  exact iff_of_true hstop.1 hstop.2

/-- The exponent `-2^31/2` is not written in the fraction form, and `-2^30`, which it matches, is. The
exponent form, which reduces first, writes both. -/
theorem forDimension_stops_at_least_numerator :
    let v : Dimension := { length := ⟨-2 ^ 31, 2, by decide, by decide, by decide, by decide⟩ }
    let w : Dimension := { length := .whole (-2 ^ 30) }
    v.Matches w ∧ (forDimension v).text = .error .negationOverflow ∧
      (forDimension w).text = .ok "1/m^1073741824" ∧
      (forDimension v).matchesText "1/m^1073741824" = .error .negationOverflow ∧
      (forDimension w).matchesText "1/m^1073741824" = .ok true ∧
      (forDimension v).alternate = "m^-1073741824" ∧ (forDimension w).alternate = "m^-1073741824" := by
  intro v w
  exact ⟨by decide +kernel, by decide +kernel, by decide +kernel, by decide +kernel, by decide +kernel,
    by decide +kernel, by decide +kernel⟩

end UnitName

end Dimensional
