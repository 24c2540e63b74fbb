import Mathlib.Tactic.NormNum
import Dimensional.Dimension.Error
import Dimensional.Proofs.Dimension.Value
import Dimensional.Proofs.Exponent.Half

/-!
# Square roots of dimensions

The check for an exact root halves all slots before it looks at one of them. It gives the right answer
whenever the halves fit. The half of an odd numerator over a large denominator does not, and there the
check itself stops.
-/

namespace Dimensional.Dimension

/-- Every exponent is an even whole number. -/
def IsEven (v : Dimension) : Prop := ∀ b, ∃ k : ℤ, v.value b = 2 * k

/-- Every exponent has a half that fits. -/
def Halves (v : Dimension) : Prop := ∀ b, (v.exponent b).Halves

instance (v : Dimension) : Decidable v.Halves :=
  inferInstanceAs (Decidable (∀ b, (v.exponent b).Halves))

theorem IsEven.halves {v : Dimension} (h : v.IsEven) : v.Halves := by
  intro b
  obtain ⟨k, hk⟩ := h b
  exact Exponent.halves_of_even hk

theorem halve_of_halves {v : Dimension} (h : v.Halves) : ∃ w, v.halve = .ok w := by
  choose f hf using fun b => Exponent.halve_of_halves (h b)
  refine ⟨ofFn f, build_eq_ok.mpr ?_⟩
  simpa using hf

theorem halve_of_not_halves {v : Dimension} (h : ¬ v.Halves) : v.halve = .error .outOfRange := by
  have hfault : ∀ b e, (v.exponent b).halve = .error e → e = .outOfRange :=
    fun b e he => (Exponent.halve_eq_error.mp he).1
  obtain ⟨b, hb⟩ := not_forall.mp h
  exact (build_eq_error_iff hfault).mpr ⟨b, Exponent.halve_eq_error.mpr ⟨rfl, hb⟩⟩

theorem isIntegral_halve_iff {v w : Dimension} (h : v.halve = .ok w) : w.IsIntegral ↔ v.IsEven := by
  unfold IsEven
  simp only [isIntegral_iff, value_of_halve h, div_eq_iff (two_ne_zero' ℚ), mul_comm (2 : ℚ)]

theorem hasExactRoot_of_halve {v w : Dimension} (h : v.halve = .ok w) :
    v.hasExactRoot = .ok (decide w.IsIntegral) := by
  unfold hasExactRoot
  rw [h]
  rfl

theorem checkedSqrt_of_halve {v w : Dimension} (h : v.halve = .ok w) :
    v.checkedSqrt = if w.IsIntegral then .ok w else .error (.inexactRoot v) := by
  unfold checkedSqrt
  rw [h]

/-- The check accepts exactly the even dimensions and returns their halves. It names every other
dimension as inexact as long as all halves fit, and stops out of range if one does not. -/
theorem checkedSqrt_outcome (v : Dimension) :
    (v.IsEven → v.hasExactRoot = .ok true ∧
      ∃ w, v.checkedSqrt = .ok w ∧ ∀ b, w.value b = v.value b / 2) ∧
    (¬ v.IsEven → v.Halves →
      v.hasExactRoot = .ok false ∧ v.checkedSqrt = .error (.inexactRoot v)) ∧
    (¬ v.Halves → ¬ v.IsEven ∧
      v.hasExactRoot = .error .outOfRange ∧ v.checkedSqrt = .error (.fault .outOfRange)) := by
  refine ⟨?_, ?_, ?_⟩
  · intro heven
    obtain ⟨w, hw⟩ := halve_of_halves heven.halves
    have hint := (isIntegral_halve_iff hw).mpr heven
    refine ⟨?_, w, ?_, value_of_halve hw⟩
    · rw [hasExactRoot_of_halve hw, decide_eq_true hint]
    · rw [checkedSqrt_of_halve hw, if_pos hint]
  · intro hodd hfit
    obtain ⟨w, hw⟩ := halve_of_halves hfit
    have hint := mt (isIntegral_halve_iff hw).mp hodd
    refine ⟨?_, ?_⟩
    · rw [hasExactRoot_of_halve hw, decide_eq_false hint]
    · rw [checkedSqrt_of_halve hw, if_neg hint]
  · intro hfit
    have hstop := halve_of_not_halves hfit
    refine ⟨mt IsEven.halves hfit, ?_, ?_⟩
    · unfold hasExactRoot
      rw [hstop]
      rfl
    · unfold checkedSqrt
      rw [hstop]

/-- The exponent `1/2^30` is not even, but the check stops instead of saying so. -/
theorem checkedSqrt_stops_at_fine_exponent :
    let v : Dimension := { length := ⟨1, 2 ^ 30, by decide, by decide, by decide, by decide⟩ }
    ¬ v.IsEven ∧ v.checkedSqrt ≠ .error (.inexactRoot v) ∧ v.hasExactRoot ≠ .ok false ∧
      v.checkedSqrt = .error (.fault .outOfRange) ∧ v.hasExactRoot = .error .outOfRange := by
  intro v
  have hfit : ¬ v.Halves := by decide +kernel
  exact ⟨mt IsEven.halves hfit, by decide +kernel, by decide +kernel, by decide +kernel, by decide +kernel⟩

/-! ## Squares -/

theorem build_eq_lowest {v : Dimension} {f : BaseDimension → Except Fault Exponent}
    (h : ∀ b, f b = .ok (v.exponent b).reduce) : build f = .ok v.lowest := by
  refine build_eq_ok.mpr fun b => ?_
  rw [exponent_lowest]
  exact h b

theorem halve_of_scale {v w : Dimension} (h : v.scale 2 = .ok w) : w.halve = .ok v.lowest :=
  build_eq_lowest fun b => Exponent.halve_of_scale (build_eq_ok.mp h b)

theorem scale_of_halve {v w : Dimension} (h : v.halve = .ok w) : w.scale 2 = .ok v.lowest :=
  build_eq_lowest fun b => Exponent.scale_of_halve (build_eq_ok.mp h b)

theorem add_self_of_halve {v w : Dimension} (h : v.halve = .ok w) : w.add w = .ok v.lowest :=
  build_eq_lowest fun b => Exponent.add_self_of_halve (build_eq_ok.mp h b)

theorem isIntegral_lowest {v : Dimension} : v.lowest.IsIntegral ↔ v.IsIntegral := by
  have hvalue : ∀ b, v.value b = v.lowest.value b := matches_iff.mp v.matches_lowest
  simp only [isIntegral_iff, hvalue]

theorem checkedSqrt_eq_ok {v w : Dimension} : v.checkedSqrt = .ok w ↔ v.halve = .ok w ∧ w.IsIntegral := by
  unfold checkedSqrt
  cases v.halve with
  | error f => simp
  | ok u =>
    by_cases hu : u.IsIntegral
    · simp only [if_pos hu, Except.ok.injEq]
      constructor
      · rintro rfl
        exact ⟨rfl, hu⟩
      · exact And.left
    · simp only [if_neg hu, reduceCtorEq, Except.ok.injEq, false_iff]
      rintro ⟨rfl, hint⟩
      exact hu hint

/-- A dimension is the root of its square if it is integral, and otherwise the square has no exact root.
Whether exact or not, the half of a double and the double of a half lead back to the dimension, and a root
squares and adds up to what it is the root of. None of these steps back leaves the stored numbers. -/
theorem scale_checkedSqrt_inverse (v : Dimension) :
    (∀ w, v.scale 2 = .ok w →
      (v.IsIntegral → ∃ h, w.checkedSqrt = .ok h ∧ h.Matches v) ∧
      (¬ v.IsIntegral → w.checkedSqrt = .error (.inexactRoot w)) ∧
      ∃ h, w.halve = .ok h ∧ h.Matches v) ∧
    (∀ h, v.halve = .ok h → ∃ w, h.scale 2 = .ok w ∧ w.Matches v) ∧
    ∀ h, v.checkedSqrt = .ok h → h.IsIntegral ∧
      (∃ w, h.scale 2 = .ok w ∧ w.Matches v) ∧ ∃ w, h.add h = .ok w ∧ w.Matches v := by
  have hback : v.lowest.Matches v := v.matches_lowest.symm
  refine ⟨?_, ?_, ?_⟩
  · intro w hw
    have hhalf := halve_of_scale hw
    rw [checkedSqrt_of_halve hhalf]
    refine ⟨fun hint => ?_, fun hint => ?_, _, hhalf, hback⟩
    · rw [if_pos (isIntegral_lowest.mpr hint)]
      exact ⟨_, rfl, hback⟩
    · exact if_neg (mt isIntegral_lowest.mp hint)
  · intro h hh
    exact ⟨_, scale_of_halve hh, hback⟩
  · intro h hh
    obtain ⟨hhalf, hint⟩ := checkedSqrt_eq_ok.mp hh
    exact ⟨hint, ⟨_, scale_of_halve hhalf, hback⟩, _, add_self_of_halve hhalf, hback⟩

theorem scale_checkedSqrt_inverse_unreduced :
    let v : Dimension := { length := ⟨6, 4, by decide, by decide, by decide, by decide⟩ }
    let u : Dimension := { time := ⟨-3, 3, by decide, by decide, by decide, by decide⟩ }
    let least : Dimension := { mass := .whole (-2 ^ 31) }
    (∃ w, v.scale 2 = .ok w ∧ w.IsIntegral ∧ w.checkedSqrt = .error (.inexactRoot w) ∧
      ∃ h, w.halve = .ok h ∧ h.Matches v) ∧
    (∃ w h, u.scale 2 = .ok w ∧ w.checkedSqrt = .ok h ∧ h.Matches u) ∧
    (∃ h w, least.halve = .ok h ∧ h.scale 2 = .ok w ∧ w.Matches least) ∧
    ∃ h w, least.checkedSqrt = .ok h ∧ h.add h = .ok w ∧ w.Matches least := by
  intro v u least
  have hv : v.scale 2 = .ok { length := .whole 3 } := by decide +kernel
  have hu : u.scale 2 = .ok { time := .whole (-2) } := by decide +kernel
  have hhalf : least.halve = .ok { mass := .whole (-2 ^ 30) } := by decide +kernel
  have hroot : least.checkedSqrt = .ok { mass := .whole (-2 ^ 30) } := by decide +kernel
  obtain ⟨hinexact, hback⟩ := ((scale_checkedSqrt_inverse v).1 _ hv).2
  obtain ⟨h, hexact⟩ := ((scale_checkedSqrt_inverse u).1 _ hu).1 (by decide +kernel)
  obtain ⟨-, hdouble, hroots⟩ := scale_checkedSqrt_inverse least
  obtain ⟨w, hw⟩ := hdouble _ hhalf
  obtain ⟨-, -, w', hw'⟩ := hroots _ hroot
  exact ⟨⟨_, hv, by decide +kernel, hinexact (by decide +kernel), hback⟩, ⟨_, h, hu, hexact⟩,
    ⟨_, w, hhalf, hw⟩, _, w', hroot, hw'⟩

end Dimensional.Dimension
