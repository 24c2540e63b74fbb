import Dimensional.Composition
import Dimensional.Proofs.Composition.Reading
import Dimensional.Proofs.Dimension.Value
import Dimensional.Proofs.Rendering
import Dimensional.Proofs.Text.Decimal

/-!
# The factors of a composed name

The fraction form writes the magnitudes of the positive exponents over those of the negative ones. It
stops at the least stored numerator, and otherwise its text is that of two lists of factors, from which
every exponent can be told.
-/

namespace Dimensional

namespace Exponent

theorem abs_of_writable {a : Exponent} (h : a.num ≠ -2 ^ 31) : ∃ c, a.abs = .ok c := by
  unfold abs neg
  split_ifs
  · exact ⟨_, rfl⟩
  · exact ⟨_, rfl⟩

theorem abs_of_least {a : Exponent} (h : a.num = -2 ^ 31) : a.abs = .error .negationOverflow := by
  unfold abs neg
  rw [if_pos (by omega), dif_pos h]

theorem reduce_abs {a c : Exponent} (h : a.abs = .ok c) :
    c.reduce.num = a.reduce.num.natAbs ∧ c.reduce.den = a.reduce.den := by
  obtain ⟨hn, hd⟩ := a.reduce_num_den
  obtain ⟨hn', hd'⟩ := c.reduce_num_den
  rw [← hn, ← hd, ← hn', ← hd', value_of_abs h]
  refine ⟨?_, ?_⟩
  · rw [Rat.num_abs_eq_abs_num, Int.natCast_natAbs]
  · rw [Rat.den_abs_eq_den]

end Exponent

namespace Composition

/-- The factor of a base unit with the magnitude of its exponent in lowest terms. -/
def Factor.of (b : BaseDimension) (e : Exponent) : Factor :=
  ⟨b, e.reduce.num.natAbs, e.reduce.den.toNat⟩

/-- The factors whose exponents are picked. -/
def factors (v : Dimension) (pick : Exponent → Bool) : List Factor :=
  (BaseDimension.all.filter fun b => pick (v.exponent b)).map fun b => .of b (v.exponent b)

/-- The factors above the slash. -/
def above (v : Dimension) : List Factor := factors v (decide ·.IsPositive)

/-- The factors below the slash. -/
def below (v : Dimension) : List Factor := factors v (decide ·.IsNegative)

/-- Every magnitude can be stored. -/
def Writable (v : Dimension) : Prop := ∀ b, (v.exponent b).num ≠ -2 ^ 31

theorem length_factors_le (v : Dimension) (pick : Exponent → Bool) : (factors v pick).length ≤ 7 := by
  rw [factors, List.length_map]
  exact List.length_filter_le _ _

/-! ## One factor -/

theorem toList_power {e : Exponent} (hreduced : e.Reduced) (hnum : 0 ≤ e.num) :
    (power e).written.toList = writePower e.num.natAbs e.den.toNat := by
  have hpos := e.den_pos
  have hone : e.IsOne ↔ e.num.natAbs = 1 ∧ e.den.toNat = 1 := by
    unfold Exponent.IsOne
    constructor
    · intro h
      have := hreduced
      rw [Exponent.Reduced, h, Int.gcd_self] at this
      omega
    · omega
  have hden : e.den = 1 ↔ e.den.toNat = 1 := by omega
  unfold power writePower
  simp only [hone, hden]
  split_ifs
  · rfl
  · simp [Rendering.written, ← Text.toList_toString_of_nonneg hnum]
  · have hd := Text.toList_toString_of_nonneg hpos.le
    rw [show e.den.natAbs = e.den.toNat by omega] at hd
    simp [Rendering.written, ← Text.toList_toString_of_nonneg hnum, ← hd]

theorem fault_power (e : Exponent) : (power e).fault = none := by
  unfold power
  split_ifs <;> rfl

theorem fault_term_of_ne {b : BaseDimension} {e : Exponent} (h : e.num ≠ -2 ^ 31) :
    (term b e).fault = none := by
  obtain ⟨c, hc⟩ := Exponent.abs_of_writable h
  simp only [term, hc, Rendering.fault_piece_append, fault_power]

theorem fault_term_of_eq {b : BaseDimension} {e : Exponent} (h : e.num = -2 ^ 31) :
    (term b e).fault = some .negationOverflow := by
  simp only [term, Exponent.abs_of_least h]
  rfl

theorem toList_term {b : BaseDimension} {e : Exponent} (h : e.num ≠ -2 ^ 31) :
    (term b e).written.toList = (Factor.of b e).write := by
  obtain ⟨c, hc⟩ := Exponent.abs_of_writable h
  obtain ⟨hn, hd⟩ := Exponent.reduce_abs hc
  have hpower := toList_power c.reduced_reduce (by omega)
  rw [hn, hd, Int.natAbs_natCast] at hpower
  simp only [term, hc, Rendering.written_piece_append, String.toList_append, hpower]
  rfl

/-! ## A row of factors -/

theorem writeFactors_eq (ps : List Factor) : writeFactors ps = [' '].intercalate (ps.map Factor.write) := by
  fun_induction writeFactors with
  | case1 => rfl
  | case2 p => simp
  | case3 p q ps ih => simp [ih]

theorem fault_terms_of_pick {v : Dimension} {pick : Exponent → Bool}
    (h : ∀ b, pick (v.exponent b) → (v.exponent b).num ≠ -2 ^ 31) : (terms v pick).fault = none := by
  rw [terms, Rendering.fault_intercalate, Rendering.fault_concat_eq_none]
  simp only [List.mem_map, List.mem_filter, forall_exists_index, and_imp]
  rintro _ b - hb rfl
  exact fault_term_of_ne (h b hb)

theorem fault_terms_of_least {v : Dimension} {pick : Exponent → Bool} {b : BaseDimension}
    (hb : pick (v.exponent b)) (hleast : (v.exponent b).num = -2 ^ 31) :
    (terms v pick).fault = some .negationOverflow := by
  have hmem : term b (v.exponent b) ∈
      (BaseDimension.all.filter fun b => pick (v.exponent b)).map fun b => term b (v.exponent b) :=
    List.mem_map_of_mem (List.mem_filter.mpr ⟨b.mem_all, hb⟩)
  rw [terms, Rendering.fault_intercalate]
  cases hf : (Rendering.concat _).fault with
  | none =>
    have := Rendering.fault_concat_eq_none.mp hf _ hmem
    rw [fault_term_of_eq hleast] at this
    contradiction
  | some f =>
    obtain ⟨r, hr, hrf⟩ := Rendering.exists_of_fault_concat hf
    obtain ⟨c, -, rfl⟩ := List.mem_map.mp hr
    by_cases hc : (v.exponent c).num = -2 ^ 31
    · rw [← hrf, fault_term_of_eq hc]
    · rw [fault_term_of_ne hc] at hrf
      contradiction

theorem toList_terms {v : Dimension} {pick : Exponent → Bool}
    (h : ∀ b, pick (v.exponent b) → (v.exponent b).num ≠ -2 ^ 31) :
    (terms v pick).written.toList = writeFactors (factors v pick) := by
  have hfault : ∀ b ∈ BaseDimension.all.filter (fun b => pick (v.exponent b)),
      (v.exponent b).num ≠ -2 ^ 31 :=
    fun b hb => h b (List.mem_filter.mp hb).2
  rw [terms, Rendering.written_intercalate, String.toList_intercalate, writeFactors_eq, factors]
  · simp only [List.map_map]
    congr 1
    exact List.map_congr_left fun b hb => toList_term (hfault b hb)
  · simp only [List.mem_map, forall_exists_index, and_imp]
    rintro _ b hb rfl
    exact fault_term_of_ne (hfault b hb)

theorem factors_eq_nil {v : Dimension} {pick : Exponent → Bool} :
    factors v pick = [] ↔ ¬ BaseDimension.all.any (fun b => pick (v.exponent b)) := by
  rw [factors, List.map_eq_nil_iff, List.filter_eq_nil_iff, Bool.not_eq_true, List.any_eq_false]

/-! ## The fraction form -/

theorem fraction_eq (v : Dimension) :
    fraction v =
      if below v = [] then if above v = [] then .empty else terms v (decide ·.IsPositive)
      else
        (if above v = [] then .piece "1" else terms v (decide ·.IsPositive)) ++
          (.piece "/" ++ terms v (decide ·.IsNegative)) := by
  unfold fraction above below
  simp only [factors_eq_nil, ite_not]
  split_ifs <;> rfl

theorem num_of_isPositive {v : Dimension} (b : BaseDimension) (h : decide (v.exponent b).IsPositive) :
    (v.exponent b).num ≠ -2 ^ 31 := by
  have : 0 < (v.exponent b).num := of_decide_eq_true h
  omega

theorem fault_terms_positive (v : Dimension) : (terms v (decide ·.IsPositive)).fault = none :=
  fault_terms_of_pick num_of_isPositive

theorem toList_terms_positive (v : Dimension) :
    (terms v (decide ·.IsPositive)).written.toList = writeFactors (above v) :=
  toList_terms num_of_isPositive

theorem isNegative_of_least {e : Exponent} (h : e.num = -2 ^ 31) : decide e.IsNegative = true := by
  rw [decide_eq_true_eq, Exponent.IsNegative]
  omega

theorem below_ne_nil_of_least {v : Dimension} {b : BaseDimension} (h : (v.exponent b).num = -2 ^ 31) :
    below v ≠ [] := by
  rw [below, ne_eq, factors_eq_nil, not_not, List.any_eq_true]
  exact ⟨b, b.mem_all, isNegative_of_least h⟩

theorem fault_fraction_of_writable {v : Dimension} (h : Writable v) : (fraction v).fault = none := by
  have hneg : (terms v (decide ·.IsNegative)).fault = none := fault_terms_of_pick fun b _ => h b
  have hpos := fault_terms_positive v
  rw [fraction_eq]
  split_ifs <;> simp [Rendering.fault_append, hneg, hpos]

theorem fault_fraction_of_least {v : Dimension} {b : BaseDimension}
    (h : (v.exponent b).num = -2 ^ 31) : (fraction v).fault = some .negationOverflow := by
  have hneg : (terms v (decide ·.IsNegative)).fault = some .negationOverflow :=
    fault_terms_of_least (isNegative_of_least h) h
  have hpos := fault_terms_positive v
  rw [fraction_eq, if_neg (below_ne_nil_of_least h)]
  split_ifs <;> simp [Rendering.fault_append, hneg, hpos]

theorem toList_fraction {v : Dimension} (h : Writable v) :
    (fraction v).written.toList = writeFraction (above v) (below v) := by
  have hpos := toList_terms_positive v
  have hneg : (terms v (decide ·.IsNegative)).written.toList = writeFactors (below v) :=
    toList_terms fun b _ => h b
  have hfault := fault_terms_positive v
  rw [fraction_eq]
  split_ifs with hb ha ha
  · rw [ha, hb]
    rfl
  · rw [hb, hpos]
    rfl
  · rw [ha, Rendering.written_append (Rendering.fault_piece _), Rendering.written_piece_append,
      String.toList_append, String.toList_append, hneg, writeFraction]
    · simp
    · exact hb
  · rw [Rendering.written_append hfault, Rendering.written_piece_append, String.toList_append,
      String.toList_append, hpos, hneg, writeFraction]
    · simp
    · exact ha
    · exact hb

/-! ## Exponents from factors -/

theorem mem_factors {v : Dimension} {pick : Exponent → Bool} {p : Factor} :
    p ∈ factors v pick ↔ pick (v.exponent p.base) ∧ p = .of p.base (v.exponent p.base) := by
  rw [factors, List.mem_map]
  constructor
  · rintro ⟨b, hb, rfl⟩
    exact ⟨(List.mem_filter.mp hb).2, rfl⟩
  · rintro ⟨hp, h⟩
    exact ⟨p.base, List.mem_filter.mpr ⟨p.base.mem_all, hp⟩, h.symm⟩

theorem of_mem_factors {v : Dimension} {pick : Exponent → Bool} {b : BaseDimension}
    (h : pick (v.exponent b)) : Factor.of b (v.exponent b) ∈ factors v pick :=
  mem_factors.mpr ⟨h, rfl⟩

theorem of_factors_eq {v w : Dimension} {pick : Exponent → Bool} (h : factors v pick = factors w pick)
    {b : BaseDimension} (hb : pick (v.exponent b)) :
    pick (w.exponent b) ∧ Factor.of b (v.exponent b) = Factor.of b (w.exponent b) := by
  have hmem := of_mem_factors hb
  rw [h] at hmem
  exact mem_factors.mp hmem

theorem abs_value_eq (b : BaseDimension) (e : Exponent) :
    |e.value| = ((Factor.of b e).num : ℚ) / (Factor.of b e).den := by
  have hden : (0 : ℚ) < e.reduce.den := by exact_mod_cast e.reduce.den_pos
  have hd : ((e.reduce.den.toNat : ℤ) : ℚ) = e.reduce.den := by
    rw [Int.toNat_of_nonneg e.reduce.den_pos.le]
  have hn : ((e.reduce.num.natAbs : ℤ) : ℚ) = |(e.reduce.num : ℚ)| := by
    rw [Int.natCast_natAbs, Int.cast_abs]
  rw [← e.value_reduce, Exponent.value, abs_div, abs_of_pos hden, ← hn, ← hd, Int.cast_natCast,
    Int.cast_natCast]
  rfl

theorem abs_value_eq_of_factor_eq {b : BaseDimension} {e f : Exponent} (h : Factor.of b e = Factor.of b f) :
    |e.value| = |f.value| := by
  rw [abs_value_eq b, h, ← abs_value_eq]

theorem matches_of_factors_eq {v w : Dimension} (habove : above v = above w)
    (hbelow : below v = below w) : v.Matches w := by
  intro b
  rw [Exponent.matches_iff_value_eq]
  rcases lt_trichotomy (v.exponent b).value 0 with hv | hv | hv
  · obtain ⟨hw, heq⟩ := of_factors_eq hbelow (decide_eq_true (Exponent.isNegative_iff_value.mpr hv))
    rw [decide_eq_true_eq, Exponent.isNegative_iff_value] at hw
    have := abs_value_eq_of_factor_eq heq
    rwa [abs_of_neg hv, abs_of_neg hw, neg_inj] at this
  · -- A factor of `w` would be one of `v`, too.
    have hnneg : ¬ (w.exponent b).value < 0 := fun hw => by
      have := (of_factors_eq hbelow.symm (decide_eq_true (Exponent.isNegative_iff_value.mpr hw))).1
      rw [decide_eq_true_eq, Exponent.isNegative_iff_value, hv] at this
      exact lt_irrefl _ this
    have hnpos : ¬ 0 < (w.exponent b).value := fun hw => by
      have := (of_factors_eq habove.symm (decide_eq_true (Exponent.isPositive_iff_value.mpr hw))).1
      rw [decide_eq_true_eq, Exponent.isPositive_iff_value, hv] at this
      exact lt_irrefl _ this
    rw [hv]
    exact le_antisymm (not_lt.mp hnneg) (not_lt.mp hnpos)
  · obtain ⟨hw, heq⟩ := of_factors_eq habove (decide_eq_true (Exponent.isPositive_iff_value.mpr hv))
    rw [decide_eq_true_eq, Exponent.isPositive_iff_value] at hw
    have := abs_value_eq_of_factor_eq heq
    rwa [abs_of_pos hv, abs_of_pos hw] at this

theorem factors_congr {v w : Dimension} {pick : Exponent → Bool} (h : v.Matches w)
    (hpick : ∀ e f : Exponent, e.value = f.value → pick e = pick f) : factors v pick = factors w pick := by
  have hvalue : ∀ b, (v.exponent b).value = (w.exponent b).value := Dimension.matches_iff.mp h
  unfold factors
  have hfilter : ∀ b, pick (v.exponent b) = pick (w.exponent b) := fun b => hpick _ _ (hvalue b)
  simp only [hfilter, Factor.of, Exponent.reduce_eq_iff_value_eq.mpr (hvalue _)]

theorem above_eq_of_matches {v w : Dimension} (h : v.Matches w) : above v = above w :=
  factors_congr h fun e f hef => by simp only [Exponent.isPositive_iff_value, hef]

theorem below_eq_of_matches {v w : Dimension} (h : v.Matches w) : below v = below w :=
  factors_congr h fun e f hef => by simp only [Exponent.isNegative_iff_value, hef]

theorem matches_iff_factors_eq {v w : Dimension} :
    v.Matches w ↔ above v = above w ∧ below v = below w :=
  ⟨fun h => ⟨above_eq_of_matches h, below_eq_of_matches h⟩, fun h => matches_of_factors_eq h.1 h.2⟩

/-- Two dimensions that are written have one text exactly if they match. -/
theorem writeFraction_eq_iff {v w : Dimension} :
    writeFraction (above v) (below v) = writeFraction (above w) (below w) ↔ v.Matches w := by
  rw [matches_iff_factors_eq]
  constructor
  · exact writeFraction_inj (length_factors_le ..) (length_factors_le ..) (length_factors_le ..)
      (length_factors_le ..)
  · rintro ⟨ha, hb⟩
    rw [ha, hb]

theorem read?_fraction (v : Dimension) :
    read? (writeFraction (above v) (below v)) = some (above v, below v) :=
  read?_writeFraction (length_factors_le ..) (length_factors_le ..)

end Composition

end Dimensional
