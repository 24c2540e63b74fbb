import Dimensional.Dimension.Basic
import Dimensional.Proofs.Exponent.Value

/-!
# The values of a dimension

A dimension stands for seven rational numbers. Slot-wise arithmetic has a result exactly if every slot
has one, and two dimensions match exactly if their seven values agree.
-/

namespace Dimensional.Dimension

/-- The rational exponent of every base dimension. -/
def value (v : Dimension) (b : BaseDimension) : ℚ := (v.exponent b).value

@[simp]
theorem value_dimensionless (b : BaseDimension) : dimensionless.value b = 0 := by
  cases b <;> exact Exponent.value_zero

theorem matches_iff {v w : Dimension} : v.Matches w ↔ ∀ b, v.value b = w.value b := by
  unfold Matches
  simp only [Exponent.matches_iff_value_eq]
  rfl

theorem matches_iff_value_eq {v w : Dimension} : v.Matches w ↔ v.value = w.value := by
  rw [matches_iff, funext_iff]

theorem Matches.symm {v w : Dimension} (h : v.Matches w) : w.Matches v := by
  rw [matches_iff_value_eq] at h ⊢
  exact h.symm

theorem Matches.trans {u v w : Dimension} (h : u.Matches v) (h' : v.Matches w) : u.Matches w := by
  rw [matches_iff_value_eq] at h h' ⊢
  exact h.trans h'

theorem isDimensionless_iff {v : Dimension} : v.IsDimensionless ↔ ∀ b, v.value b = 0 := by
  simp only [IsDimensionless, matches_iff, value_dimensionless]

theorem isIntegral_iff {v : Dimension} : v.IsIntegral ↔ ∀ b, ∃ k : ℤ, v.value b = k := by
  simp only [IsIntegral, Exponent.isInteger_iff_value]
  rfl

/-! ## Lowest terms -/

/-- The dimension with its exponents in lowest terms. -/
def lowest (v : Dimension) : Dimension := ofFn fun b => (v.exponent b).reduce

@[simp]
theorem exponent_lowest (v : Dimension) (b : BaseDimension) :
    v.lowest.exponent b = (v.exponent b).reduce := by
  rw [lowest, exponent_ofFn]

theorem matches_lowest (v : Dimension) : v.Matches v.lowest := by
  intro b
  rw [exponent_lowest, Exponent.matches_iff_value_eq, Exponent.value_reduce]

/-! ## Working slot by slot -/

theorem build_eq_ok {f : BaseDimension → Except Fault Exponent} {v : Dimension} :
    build f = .ok v ↔ ∀ b, f b = .ok (v.exponent b) := by
  unfold build
  simp only [Outcome.bind_eq_ok]
  constructor
  · rintro ⟨l, hl, m, hm, t, ht, i, hi, k, hk, n, hn, j, hj, hv⟩
    cases hv
    intro b
    cases b
    exacts [hl, hm, ht, hi, hk, hn, hj]
  · intro h
    exact ⟨_, h .length, _, h .mass, _, h .time, _, h .current, _, h .temperature, _, h .substance,
      _, h .luminousIntensity, rfl⟩

theorem exists_of_build_eq_error {f : BaseDimension → Except Fault Exponent} {e : Fault}
    (h : build f = .error e) : ∃ b, f b = .error e := by
  unfold build at h
  simp only [Outcome.bind_eq_error, pure, Except.pure, reduceCtorEq, and_false, exists_false,
    or_false] at h
  rcases h with h | ⟨_, -, h | ⟨_, -, h | ⟨_, -, h | ⟨_, -, h | ⟨_, -, h | ⟨_, -, h⟩⟩⟩⟩⟩⟩
  all_goals exact ⟨_, h⟩

theorem build_eq_error_iff {f : BaseDimension → Except Fault Exponent} {e : Fault}
    (hf : ∀ b e', f b = .error e' → e' = e) : build f = .error e ↔ ∃ b, f b = .error e := by
  constructor
  · exact exists_of_build_eq_error
  · rintro ⟨b, hb⟩
    cases hv : build f with
    | ok v => simp [build_eq_ok.mp hv b] at hb
    | error e' =>
      obtain ⟨c, hc⟩ := exists_of_build_eq_error hv
      rw [hf c e' hc]

/-- A difference has a result exactly if every slot has one, although all of `w` is negated first. -/
theorem sub_eq_ok {u v w : Dimension} :
    v.sub w = .ok u ↔ ∀ b, (v.exponent b).sub (w.exponent b) = .ok (u.exponent b) := by
  unfold sub Exponent.sub
  simp only [Outcome.bind_eq_ok]
  constructor
  · rintro ⟨w', hw, hu⟩ b
    exact ⟨w'.exponent b, build_eq_ok.mp hw b, build_eq_ok.mp hu b⟩
  · intro h
    choose f hneg hadd using h
    exact ⟨ofFn f, build_eq_ok.mpr (by simpa using hneg), build_eq_ok.mpr (by simpa using hadd)⟩

/-! ## The values of results -/

theorem value_of_add {u v w : Dimension} (h : v.add w = .ok u) (b : BaseDimension) :
    u.value b = v.value b + w.value b :=
  Exponent.value_of_add (build_eq_ok.mp h b)

theorem value_of_negate {u v : Dimension} (h : v.negate = .ok u) (b : BaseDimension) :
    u.value b = -v.value b :=
  Exponent.value_of_neg (build_eq_ok.mp h b)

theorem value_of_sub {u v w : Dimension} (h : v.sub w = .ok u) (b : BaseDimension) :
    u.value b = v.value b - w.value b :=
  Exponent.value_of_sub (sub_eq_ok.mp h b)

theorem value_of_scale {u v : Dimension} {k : ℤ} (h : v.scale k = .ok u) (b : BaseDimension) :
    u.value b = v.value b * k :=
  Exponent.value_of_scale (build_eq_ok.mp h b)

theorem value_of_halve {u v : Dimension} (h : v.halve = .ok u) (b : BaseDimension) :
    u.value b = v.value b / 2 :=
  Exponent.value_of_halve (build_eq_ok.mp h b)

end Dimensional.Dimension
