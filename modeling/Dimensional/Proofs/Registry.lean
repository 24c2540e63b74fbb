import Dimensional.Registry
import Dimensional.Proofs.Dimension.Value

/-!
# Searching a registry

Where no dimension and no symbol is registered twice, the first registration that is found is the only
one, so the two searches are inverse to each other.
-/

namespace Dimensional.Registry

theorem oneToOne_iff {rs : List Registration} :
    oneToOne rs ↔ rs.Pairwise fun r s => ¬ r.Clashes s := by
  induction rs with
  | nil => simp [oneToOne]
  | cons r rs ih => simp [oneToOne, ih]

/-- Of two registrations of a registry with one property, neither clashes with the other, so a property
that makes registrations clash has one holder. -/
theorem find?_eq_some_of_clash {rs : List Registration} (h : oneToOne rs) {p : Registration → Bool}
    (hp : ∀ r s, p r → p s → r.Clashes s) {r : Registration} :
    rs.find? p = some r ↔ r ∈ rs ∧ p r := by
  rw [oneToOne_iff] at h
  induction rs with
  | nil => simp
  | cons s rs ih =>
    rw [List.pairwise_cons] at h
    rw [List.find?_cons]
    cases hs : p s with
    | true =>
      simp only [Option.some.injEq, List.mem_cons]
      constructor
      · rintro rfl
        exact ⟨.inl rfl, hs⟩
      · rintro ⟨rfl | hr, hpr⟩
        · rfl
        · exact absurd (hp _ _ hs hpr) (h.1 r hr)
    | false =>
      rw [ih h.2, List.mem_cons]
      constructor
      · rintro ⟨hr, hpr⟩
        exact ⟨.inr hr, hpr⟩
      · rintro ⟨rfl | hr, hpr⟩
        · rw [hs] at hpr
          contradiction
        · exact ⟨hr, hpr⟩

theorem symbolIn_eq_some {rs : List Registration} (h : oneToOne rs) {v : Dimension} {s : String} :
    symbolIn rs v = some s ↔ ∃ r ∈ rs, r.dimension.Matches v ∧ r.symbol = s := by
  have hp : ∀ r s : Registration, decide (r.dimension.Matches v) → decide (s.dimension.Matches v) →
      r.Clashes s :=
    fun r s hr hs => .inl ((of_decide_eq_true hr).trans (of_decide_eq_true hs).symm)
  rw [symbolIn, Option.map_eq_some_iff]
  simp only [find?_eq_some_of_clash h hp, decide_eq_true_eq, and_assoc]

theorem dimensionIn_eq_some {rs : List Registration} (h : oneToOne rs) {s : String} {v : Dimension} :
    dimensionIn rs s = some v ↔ ∃ r ∈ rs, r.symbol = s ∧ r.dimension = v := by
  have hp : ∀ r t : Registration, decide (r.symbol = s) → decide (t.symbol = s) → r.Clashes t :=
    fun r t hr ht => .inr ((of_decide_eq_true hr).trans (of_decide_eq_true ht).symm)
  rw [dimensionIn, Option.map_eq_some_iff]
  simp only [find?_eq_some_of_clash h hp, decide_eq_true_eq, and_assoc]

theorem symbolIn_eq_none {rs : List Registration} {v : Dimension} :
    symbolIn rs v = none ↔ ∀ r ∈ rs, ¬ r.dimension.Matches v := by
  simp [symbolIn]

theorem symbolIn_congr (rs : List Registration) {v w : Dimension} (h : v.Matches w) :
    symbolIn rs v = symbolIn rs w := by
  have hp : ∀ r : Registration, r.dimension.Matches v ↔ r.dimension.Matches w :=
    fun r => ⟨fun hr => hr.trans h, fun hr => hr.trans h.symm⟩
  simp only [symbolIn, hp]

/-! ## The SI units -/

theorem oneToOne_entries : oneToOne entries := by
  decide +kernel

theorem entries_dimension : ∀ r ∈ entries, ¬ r.dimension.IsDimensionless := by
  decide +kernel

theorem entries_symbol : ∀ r ∈ entries, r.symbol ≠ "" ∧ r.symbol ≠ radian := by
  decide +kernel

theorem lookup_eq_some {v : Dimension} {s : String} :
    lookup v = some s ↔ ∃ r ∈ entries, r.dimension.Matches v ∧ r.symbol = s :=
  symbolIn_eq_some oneToOne_entries

theorem lookup_eq_none {v : Dimension} : lookup v = none ↔ ∀ r ∈ entries, ¬ r.dimension.Matches v :=
  symbolIn_eq_none

theorem lookup_congr {v w : Dimension} (h : v.Matches w) : lookup v = lookup w :=
  symbolIn_congr entries h

/-- The dimension is that of an entry, in whatever form it is stored. -/
def IsRegistered (v : Dimension) : Prop :=
  ∃ r ∈ entries, r.dimension.Matches v

theorem isRegistered_of_lookup {v : Dimension} {s : String} (h : lookup v = some s) :
    IsRegistered v := by
  obtain ⟨r, hr, hm, -⟩ := lookup_eq_some.mp h
  exact ⟨r, hr, hm⟩

theorem not_isRegistered_of_lookup {v : Dimension} (h : lookup v = none) : ¬ IsRegistered v := by
  rintro ⟨r, hr, hm⟩
  exact lookup_eq_none.mp h r hr hm

theorem matches_of_lookup_eq {v w : Dimension} {s : String} (hv : lookup v = some s)
    (hw : lookup w = some s) : v.Matches w := by
  obtain ⟨r, hr, hrv, rfl⟩ := lookup_eq_some.mp hv
  obtain ⟨t, ht, htw, hs⟩ := lookup_eq_some.mp hw
  have hfind : ∀ u ∈ entries, u.symbol = r.symbol → dimensionIn entries r.symbol = some u.dimension :=
    fun u hu hsymbol => (dimensionIn_eq_some oneToOne_entries).mpr ⟨u, hu, hsymbol, rfl⟩
  have heq : r.dimension = t.dimension :=
    Option.some.inj ((hfind r hr rfl).symm.trans (hfind t ht hs))
  rw [← heq] at htw
  exact hrv.symm.trans htw

theorem lookup_of_isDimensionless {v : Dimension} (h : v.IsDimensionless) : lookup v = none :=
  lookup_eq_none.mpr fun r hr hrv => entries_dimension r hr (hrv.trans h)

theorem findSymbol_radian : findSymbol radian = some .dimensionless := rfl

theorem findSymbol_eq_some {s : String} (hs : s ≠ radian) {v : Dimension} :
    findSymbol s = some v ↔ ∃ r ∈ entries, r.symbol = s ∧ r.dimension = v := by
  rw [findSymbol, if_neg hs, dimensionIn_eq_some oneToOne_entries]

theorem findSymbol_of_lookup {v : Dimension} {s : String} (h : lookup v = some s) :
    ∃ w, findSymbol s = some w ∧ w.Matches v := by
  obtain ⟨r, hr, hrv, rfl⟩ := lookup_eq_some.mp h
  exact ⟨r.dimension, (findSymbol_eq_some (entries_symbol r hr).2).mpr ⟨r, hr, rfl, rfl⟩, hrv⟩

theorem lookup_of_findSymbol {v w : Dimension} {s : String} (h : findSymbol s = some w)
    (hs : s ≠ radian) (hwv : w.Matches v) : lookup v = some s := by
  obtain ⟨r, hr, rfl, rfl⟩ := (findSymbol_eq_some hs).mp h
  exact lookup_eq_some.mpr ⟨r, hr, hwv, rfl⟩

theorem isKnown_iff {s : String} : IsKnown s ↔ s = radian ∨ ∃ v, lookup v = some s := by
  rw [IsKnown, Option.isSome_iff_exists]
  by_cases hs : s = radian
  · subst hs
    exact iff_of_true ⟨_, findSymbol_radian⟩ (.inl rfl)
  · rw [or_iff_right hs]
    constructor
    · rintro ⟨v, hv⟩
      exact ⟨v, lookup_of_findSymbol hv hs fun _ => rfl⟩
    · rintro ⟨v, hv⟩
      obtain ⟨w, hw, -⟩ := findSymbol_of_lookup hv
      exact ⟨w, hw⟩

theorem ne_radian_of_lookup {v : Dimension} {s : String} (h : lookup v = some s) : s ≠ radian := by
  obtain ⟨r, hr, -, rfl⟩ := lookup_eq_some.mp h
  exact (entries_symbol r hr).2

theorem entries_named : ∀ r ∈ entries, ∃ d ∈ Dim.named, d.2.dimension = .ok r.dimension := by
  decide +kernel

/-- The table pairs dimensions of named expressions with symbols, and the searches read it in both
directions: what one of them finds, the other leads back from, and no two dimensions share a symbol.
The symbol of angles stands apart, as angles have no dimension to look up. -/
theorem lookup_findSymbol_inverse (v w : Dimension) (s : String) :
    (∀ r ∈ entries, ∃ d ∈ Dim.named, d.2.dimension = .ok r.dimension) ∧
    (lookup v = some s → s ≠ "rad" ∧ ∃ u, findSymbol s = some u ∧ u.Matches v) ∧
    (findSymbol s = some w → s ≠ "rad" → ∀ u : Dimension, u.Matches w → lookup u = some s) ∧
    (v.IsDimensionless → lookup v = none) ∧
    (∃ u, findSymbol "rad" = some u ∧ u.IsDimensionless) ∧
    (IsKnown s ↔ s = "rad" ∨ ∃ u, lookup u = some s) ∧
    (lookup v = some s → lookup w = some s → v.Matches w) := by
  refine ⟨entries_named, ?_, ?_, lookup_of_isDimensionless, ⟨_, findSymbol_radian, fun _ => rfl⟩,
    isKnown_iff, matches_of_lookup_eq⟩
  · intro h
    exact ⟨ne_radian_of_lookup h, findSymbol_of_lookup h⟩
  · intro h hs u hu
    exact lookup_of_findSymbol h hs hu.symm

theorem lookup_findSymbol_inverse_speed :
    let v : Dimension :=
      { length := ⟨4, 4, by decide, by decide, by decide, by decide⟩
        time := ⟨-6, 6, by decide, by decide, by decide, by decide⟩ }
    let w : Dimension := { length := .one, time := .whole (-1) }
    (∃ u, findSymbol "m/s" = some u ∧ u.Matches v) ∧ (∀ u : Dimension, u.Matches w → lookup u = some "m/s") ∧
      lookup {} = none ∧ v.Matches w := by
  intro v w
  have hv : lookup v = some "m/s" := by decide +kernel
  have hw : lookup w = some "m/s" := by decide +kernel
  have hfind : findSymbol "m/s" = some w := by decide +kernel
  obtain ⟨-, hfound, hback, -, -, -, hsame⟩ := lookup_findSymbol_inverse v w "m/s"
  obtain ⟨-, -, -, hnone, -⟩ := lookup_findSymbol_inverse {} w "m/s"
  exact ⟨(hfound hv).2, hback hfind (by decide), hnone fun _ => rfl, hsame hv hw⟩

end Dimensional.Registry
