import Dimensional.Proofs.Dimension.Value
import Dimensional.Proofs.Exponent.Exact

/-!
# Differences

A difference adds a negative, and the least numerator has none. Everywhere else the difference is exact,
and nothing remains of what is subtracted from itself.
-/

namespace Dimensional.Dimension

theorem sub_self_of_ne {v : Dimension} (h : ∀ s, (v.exponent s).num ≠ -2 ^ 31) :
    v.sub v = .ok dimensionless := by
  refine sub_eq_ok.mpr fun s => ?_
  rw [Exponent.sub_self_of_ne (h s)]
  cases s <;> rfl

theorem sub_of_least {v w : Dimension} (h : ∃ s, (w.exponent s).num = -2 ^ 31) :
    v.sub w = .error .negationOverflow := by
  obtain ⟨s, hs⟩ := h
  have hfault : ∀ b f, (w.exponent b).neg = .error f → f = .negationOverflow :=
    fun b f hf => (Exponent.neg_eq_error.mp hf).1
  have hneg : w.negate = .error .negationOverflow :=
    (build_eq_error_iff hfault).mpr ⟨s, Exponent.neg_eq_error.mpr ⟨rfl, hs⟩⟩
  rw [sub, hneg]
  rfl

open Exponent (IsExact StopsWith)

/-- Differences are exact unless the least numerator is subtracted, which stops them all. Short of that, a
difference of an exponent or of a dimension with itself is zero, and undoes a sum. -/
theorem sub_outcome (a b : Exponent) (v : Dimension) :
    (b.num ≠ -2 ^ 31 → IsExact (a.value - b.value) (a.sub b)) ∧
    (b.num = -2 ^ 31 → StopsWith (a.sub b) "attempt to negate with overflow") ∧
    (a.num ≠ -2 ^ 31 → a.sub a = .ok .zero) ∧
    (b.num ≠ -2 ^ 31 → ∀ c, a.add b = .ok c → ∃ d, c.sub b = .ok d ∧ d.Matches a ∧ d.Reduced) ∧
    ((∀ s, (v.exponent s).num ≠ -2 ^ 31) → ∃ w, v.sub v = .ok w ∧ w.IsDimensionless) ∧
    ((∃ s, (v.exponent s).num = -2 ^ 31) → StopsWith (v.sub v) "attempt to negate with overflow") := by
  refine ⟨?_, ?_, Exponent.sub_self_of_ne, ?_, ?_, ?_⟩
  · intro h
    rw [Exponent.sub_eq_ofValue h]
    exact Exponent.isExact_ofValue _
  · intro h
    exact ⟨.negationOverflow, Exponent.sub_of_least h, rfl⟩
  · intro h c hc
    exact ⟨a.reduce, Exponent.sub_of_add hc h, Exponent.matches_iff_value_eq.mpr a.value_reduce,
      a.reduced_reduce⟩
  · intro h
    exact ⟨dimensionless, sub_self_of_ne h, isDimensionless_iff.mpr value_dimensionless⟩
  · intro h
    exact ⟨.negationOverflow, sub_of_least h, rfl⟩

theorem sub_outcome_half :
    let half : Exponent := ⟨2, 4, by decide, by decide, by decide, by decide⟩
    let third : Exponent := ⟨1, 3, by decide, by decide, by decide, by decide⟩
    let sum : Exponent := ⟨5, 6, by decide, by decide, by decide, by decide⟩
    let least : Exponent := .whole (-2 ^ 31)
    IsExact (half.value - third.value) (half.sub third) ∧ half.sub half = .ok .zero ∧
    (∃ d, sum.sub third = .ok d ∧ d.Matches half ∧ d.Reduced) ∧
    (∃ w, sub { length := half } { length := half } = .ok w ∧ w.IsDimensionless) ∧
    StopsWith (Exponent.zero.sub least) "attempt to negate with overflow" ∧
    StopsWith (sub { mass := least } { mass := least }) "attempt to negate with overflow" := by
  intro half third sum least
  obtain ⟨hexact, -, hself, hback, hdimension, -⟩ := sub_outcome half third { length := half }
  obtain ⟨-, hstop, -, -, -, hstops⟩ := sub_outcome .zero least { mass := least }
  have hsum : half.add third = .ok sum := by decide +kernel
  exact ⟨hexact (by decide), hself (by decide), hback (by decide) sum hsum, hdimension (by decide),
    hstop (by decide), hstops ⟨.mass, by decide⟩⟩

/-- The least numerator less itself is zero, which can be stored, but it stops, in a dimension as well, and
so does the way back from a sum with it. -/
theorem sub_self_stops_at_least_numerator :
    let a : Exponent := .whole (-2 ^ 31)
    let v : Dimension := { length := a }
    a.value - a.value = 0 ∧ ¬ IsExact (a.value - a.value) (a.sub a) ∧
      a.sub a = .error .negationOverflow ∧ v.sub v = .error .negationOverflow ∧
      ∃ c, Exponent.one.add a = .ok c ∧ c.sub a = .error .negationOverflow := by
  intro a v
  have hstop : a.sub a = .error .negationOverflow := by decide +kernel
  refine ⟨sub_self _, ?_, hstop, by decide +kernel, .whole (1 - 2 ^ 31), by decide +kernel, by decide +kernel⟩
  intro h
  have hfits : Exponent.Fits (a.value - a.value) := by
    rw [sub_self]
    decide
  obtain ⟨c, hc, -⟩ := h.stored hfits
  rw [hstop] at hc
  contradiction

end Dimensional.Dimension
