import Dimensional.Proofs.Composition.Factors
import Dimensional.Proofs.Registry
import Dimensional.UnitName

/-!
# A unit name identifies its dimension

The names of two dimensions agree exactly if the dimensions match. A composed name can be read back, and
what is read from a registered symbol, if it can be read at all, is the dimension that it is registered
for. So the two kinds of names never meet.
-/

namespace Dimensional.UnitName

open Dimensional.Composition Registry

/-! ## Composed names -/

theorem text_composed_eq_ok {v : Dimension} {s : String} :
    (composed v).text = .ok s ↔ Writable v ∧ s.toList = writeFraction (above v) (below v) := by
  rw [text, rendering, Rendering.text_eq_ok]
  constructor
  · rintro ⟨hfault, rfl⟩
    have hw : Writable v := fun b hb => by
      rw [fault_fraction_of_least hb] at hfault
      contradiction
    exact ⟨hw, toList_fraction hw⟩
  · rintro ⟨hw, hs⟩
    refine ⟨fault_fraction_of_writable hw, ?_⟩
    rw [← String.toList_inj, hs, toList_fraction hw]

theorem text_composed_eq_error {v : Dimension} :
    (composed v).text = .error .negationOverflow ↔ ∃ b, (v.exponent b).num = -2 ^ 31 := by
  rw [text, rendering, Rendering.text_eq_error]
  constructor
  · intro h
    by_contra hne
    rw [fault_fraction_of_writable (not_exists.mp hne)] at h
    contradiction
  · rintro ⟨b, hb⟩
    exact fault_fraction_of_least hb

theorem text_composed_inj {v w : Dimension} {s t : String} (hs : (composed v).text = .ok s)
    (ht : (composed w).text = .ok t) : s = t ↔ v.Matches w := by
  rw [← String.toList_inj, (text_composed_eq_ok.mp hs).2, (text_composed_eq_ok.mp ht).2,
    writeFraction_eq_iff]

theorem text_composed_eq_empty {v : Dimension} {s : String} (hs : (composed v).text = .ok s) :
    s = "" ↔ v.IsDimensionless := by
  have hempty : (composed .dimensionless).text = .ok "" := by decide +kernel
  exact text_composed_inj hs hempty

/-! ## Registered symbols -/

theorem entries_read : ∀ r ∈ entries, read? r.symbol.toList = none ∨
    read? r.symbol.toList = some (above r.dimension, below r.dimension) := by
  decide +kernel

theorem read?_radian : read? radian.toList = none := by
  decide +kernel

theorem read?_of_text_composed {v : Dimension} {s : String} (hs : (composed v).text = .ok s) :
    read? s.toList = some (above v, below v) := by
  rw [(text_composed_eq_ok.mp hs).2, read?_fraction]

theorem text_composed_ne_radian {v : Dimension} {s : String} (hs : (composed v).text = .ok s) :
    s ≠ radian := by
  rintro rfl
  have := read?_of_text_composed hs
  rw [read?_radian] at this
  contradiction

theorem text_composed_ne_symbol {v : Dimension} {s : String} (hv : lookup v = none)
    (hs : (composed v).text = .ok s) : ∀ r ∈ entries, s ≠ r.symbol := by
  rintro r hr rfl
  have hread := read?_of_text_composed hs
  rcases entries_read r hr with h | h
  · rw [h] at hread
    contradiction
  · rw [h, Option.some.injEq, Prod.mk.injEq] at hread
    exact lookup_eq_none.mp hv r hr (matches_of_factors_eq hread.1 hread.2)

/-- No reader of symbols takes the composed name of a dimension that is not registered. -/
theorem findSymbol_text_composed {v : Dimension} {s : String} (hv : lookup v = none)
    (hs : (composed v).text = .ok s) : findSymbol s = none := by
  cases h : findSymbol s with
  | none => rfl
  | some w =>
    obtain ⟨r, hr, hsymbol, -⟩ := (findSymbol_eq_some (text_composed_ne_radian hs)).mp h
    exact absurd hsymbol.symm (text_composed_ne_symbol hv hs r hr)

/-! ## The name of a dimension -/

theorem forDimension_of_lookup {v : Dimension} {s : String} (h : lookup v = some s) :
    forDimension v = registered s := by
  rw [forDimension, h]

theorem forDimension_of_none {v : Dimension} (h : lookup v = none) : forDimension v = composed v := by
  rw [forDimension, h]

@[simp]
theorem text_registered (s : String) : (registered s).text = .ok s := by
  rw [text, rendering, Rendering.text_eq_ok]
  exact ⟨rfl, Rendering.written_piece s⟩

theorem not_matches_of_lookup_ne {v w : Dimension} (h : lookup v ≠ lookup w) : ¬ v.Matches w :=
  mt lookup_congr h

theorem same_forDimension_iff {v w : Dimension} :
    (forDimension v).Same (forDimension w) ↔ v.Matches w := by
  cases hv : lookup v with
  | some s =>
    rw [forDimension_of_lookup hv]
    cases hw : lookup w with
    | some t =>
      rw [forDimension_of_lookup hw, Same]
      constructor
      · rintro rfl
        exact matches_of_lookup_eq hv hw
      · intro h
        rw [lookup_congr h, hw] at hv
        exact (Option.some.inj hv).symm
    | none =>
      rw [forDimension_of_none hw]
      exact ⟨False.elim, not_matches_of_lookup_ne (by simp [hv, hw])⟩
  | none =>
    rw [forDimension_of_none hv]
    cases hw : lookup w with
    | some t =>
      rw [forDimension_of_lookup hw]
      exact ⟨False.elim, not_matches_of_lookup_ne (by simp [hv, hw])⟩
    | none =>
      rw [forDimension_of_none hw]
      exact Iff.rfl

theorem symbol_ne_text_composed {v w : Dimension} {s t : String} (hv : lookup v = some s)
    (hw : lookup w = none) (ht : (composed w).text = .ok t) : t ≠ s := by
  obtain ⟨r, hr, -, rfl⟩ := lookup_eq_some.mp hv
  exact text_composed_ne_symbol hw ht r hr

theorem text_forDimension_inj {v w : Dimension} {s t : String} (hs : (forDimension v).text = .ok s)
    (ht : (forDimension w).text = .ok t) : s = t ↔ v.Matches w := by
  cases hv : lookup v with
  | some a =>
    rw [forDimension_of_lookup hv, text_registered, Except.ok.injEq] at hs
    subst hs
    cases hw : lookup w with
    | some b =>
      rw [forDimension_of_lookup hw, text_registered, Except.ok.injEq] at ht
      subst ht
      rw [← same_forDimension_iff, forDimension_of_lookup hv, forDimension_of_lookup hw, Same]
    | none =>
      rw [forDimension_of_none hw] at ht
      exact iff_of_false (symbol_ne_text_composed hv hw ht).symm
        (not_matches_of_lookup_ne (by simp [hv, hw]))
  | none =>
    rw [forDimension_of_none hv] at hs
    cases hw : lookup w with
    | some b =>
      rw [forDimension_of_lookup hw, text_registered, Except.ok.injEq] at ht
      subst ht
      exact iff_of_false (symbol_ne_text_composed hw hv hs)
        (not_matches_of_lookup_ne (by simp [hv, hw]))
    | none =>
      rw [forDimension_of_none hw] at ht
      exact text_composed_inj hs ht

theorem text_forDimension_eq_empty {v : Dimension} {s : String} (hs : (forDimension v).text = .ok s) :
    s = "" ↔ v.IsDimensionless := by
  have hempty : (forDimension .dimensionless).text = .ok "" := by decide +kernel
  exact text_forDimension_inj hs hempty

theorem text_forDimension_ne_radian {v : Dimension} {s : String} (hs : (forDimension v).text = .ok s) :
    s ≠ radian := by
  cases hv : lookup v with
  | some a =>
    rw [forDimension_of_lookup hv, text_registered, Except.ok.injEq] at hs
    subst hs
    obtain ⟨r, hr, -, rfl⟩ := lookup_eq_some.mp hv
    exact (entries_symbol r hr).2
  | none =>
    rw [forDimension_of_none hv] at hs
    exact text_composed_ne_radian hs

theorem text_forDimension_eq_error {v : Dimension} :
    (forDimension v).text = .error .negationOverflow ↔
      lookup v = none ∧ ∃ b, (v.exponent b).num = -2 ^ 31 := by
  cases hv : lookup v with
  | some a => simp [forDimension_of_lookup hv, text_registered]
  | none => simp [forDimension_of_none hv, text_composed_eq_error]

theorem exists_text_forDimension {v : Dimension} :
    (∃ s, (forDimension v).text = .ok s) ↔ ¬ (lookup v = none ∧ ∃ b, (v.exponent b).num = -2 ^ 31) := by
  rw [← text_forDimension_eq_error]
  cases hv : lookup v with
  | some a => simp [forDimension_of_lookup hv, text_registered]
  | none =>
    rw [forDimension_of_none hv, text_composed_eq_error]
    constructor
    · rintro ⟨s, hs⟩ ⟨b, hb⟩
      exact (text_composed_eq_ok.mp hs).1 b hb
    · intro h
      exact ⟨_, text_composed_eq_ok.mpr ⟨not_exists.mp h, String.toList_ofList⟩⟩

/-- The text of a unit name exists unless an unregistered dimension stores the least numerator. Where
there are texts, they identify the dimensions: no composed name is the name of another dimension, and
no name is that of an angle. -/
theorem text_forDimension_identifies (v w : Dimension) :
    ((forDimension v).text = .error .negationOverflow ↔
      lookup v = none ∧ ∃ b, (v.exponent b).num = -2 ^ 31) ∧
    ((∃ s, (forDimension v).text = .ok s) ↔
      ¬ (lookup v = none ∧ ∃ b, (v.exponent b).num = -2 ^ 31)) ∧
    (∀ s t, (forDimension v).text = .ok s → (forDimension w).text = .ok t →
      (s = t ↔ v.Matches w) ∧ (v.Matches w ↔ (forDimension v).Same (forDimension w))) ∧
    (∀ s, (forDimension v).text = .ok s → (s = "" ↔ v.IsDimensionless) ∧ s ≠ "rad") ∧
    (∀ s, lookup v = none → (composed v).text = .ok s →
      (∀ r ∈ entries, s ≠ r.symbol) ∧
        ∀ t, (composed w).text = .ok t → ¬ v.Matches w → s ≠ t) := by
  refine ⟨text_forDimension_eq_error, exists_text_forDimension, ?_, ?_, ?_⟩
  · intro s t hs ht
    exact ⟨text_forDimension_inj hs ht, same_forDimension_iff.symm⟩
  · intro s hs
    exact ⟨text_forDimension_eq_empty hs, text_forDimension_ne_radian hs⟩
  · intro s hv hs
    refine ⟨text_composed_ne_symbol hv hs, fun t ht hne => ?_⟩
    rwa [ne_eq, text_composed_inj hs ht]

theorem text_forDimension_identifies_unreduced :
    let v : Dimension := { length := .whole 1, mass := .whole (-1) }
    let w : Dimension :=
      { length := ⟨4, 4, by decide, by decide, by decide, by decide⟩
        mass := ⟨-3, 3, by decide, by decide, by decide, by decide⟩ }
    (forDimension v).text = .ok "m/kg" ∧ (forDimension w).text = .ok "m/kg" ∧ v.Matches w ∧
      ∀ r ∈ entries, "m/kg" ≠ r.symbol := by
  intro v w
  have hv : (forDimension v).text = .ok "m/kg" := by decide +kernel
  have hw : (forDimension w).text = .ok "m/kg" := by decide +kernel
  have hlookup : lookup v = none := by decide +kernel
  obtain ⟨-, -, htexts, -, hcomposed⟩ := text_forDimension_identifies v w
  refine ⟨hv, hw, (htexts _ _ hv hw).1.mp rfl, (hcomposed _ hlookup ?_).1⟩
  rw [← forDimension_of_none hlookup, hv]

end Dimensional.UnitName
