import Dimensional.Dimension.Step
import Dimensional.Proofs.Dimension.Root
import Dimensional.Proofs.Exponent.Sum

/-!
# Sums of many dimensions

A calculation with dimensions is seven calculations with exponents, one in each slot. So sums and
differences of dimensions have one result in every order, too.
-/

namespace Dimensional.Dimension

/-! ## Steps -/

namespace Step

/-- What a step does in one slot. -/
def slot (b : BaseDimension) : Step → Exponent.Step
  | add w => .add (w.exponent b)
  | sub w => .sub (w.exponent b)
  | negate => .neg
  | scale k => .scale k
  | halve => .halve
  | sqrt => .halve
  | set w => .set (w.exponent b)

/-- Both steps add or both subtract, and their operands match. -/
inductive Agrees : Step → Step → Prop where
  | add {v w : Dimension} (h : v.Matches w) : Agrees (add v) (add w)
  | sub {v w : Dimension} (h : v.Matches w) : Agrees (sub v) (sub w)

variable {s t : Step} {v w : Dimension}

theorem apply_slot (h : s.apply v = .ok w) (b : BaseDimension) :
    (s.slot b).apply (v.exponent b) = .ok (w.exponent b) := by
  cases s with
  | add u => exact build_eq_ok.mp (Outcome.mapError_eq_ok.mp h) b
  | sub u => exact sub_eq_ok.mp (Outcome.mapError_eq_ok.mp h) b
  | negate => exact build_eq_ok.mp (Outcome.mapError_eq_ok.mp h) b
  | scale k => exact build_eq_ok.mp (Outcome.mapError_eq_ok.mp h) b
  | halve => exact build_eq_ok.mp (Outcome.mapError_eq_ok.mp h) b
  | sqrt => exact build_eq_ok.mp (checkedSqrt_eq_ok.mp h).1 b
  | set u =>
    cases h
    rfl

theorem Agrees.slot (h : s.Agrees t) (b : BaseDimension) : (s.slot b).Agrees (t.slot b) := by
  cases h with
  | add h => exact .add (h b)
  | sub h => exact .sub (h b)

end Step

/-! ## Calculations -/

/-- The result of a calculation that the first broken rule stops. -/
def complete (v : Dimension) (steps : List Step) : Except DimensionError Dimension :=
  steps.foldlM Step.apply v

variable {v w : Dimension} {steps ordered steps' : List Step}

theorem complete_slot (h : complete v steps = .ok w) (b : BaseDimension) :
    (v.exponent b).complete (steps.map (Step.slot b)) = .ok (w.exponent b) := by
  induction steps generalizing v with
  | nil =>
    cases h
    rfl
  | cons s steps ih =>
    unfold complete at h
    rw [List.foldlM_cons, Outcome.bind_eq_ok] at h
    obtain ⟨u, hu, h⟩ := h
    exact Exponent.complete_cons.mpr ⟨u.exponent b, Step.apply_slot hu b, ih h⟩

theorem agrees_slot (h : List.Forall₂ Step.Agrees ordered steps') (b : BaseDimension) :
    List.Forall₂ Exponent.Step.Agrees (ordered.map (Step.slot b)) (steps'.map (Step.slot b)) := by
  rw [List.forall₂_map_left_iff, List.forall₂_map_right_iff]
  exact h.imp fun _ _ hs => hs.slot b

theorem complete_eq (horder : steps.Perm ordered) (hforms : List.Forall₂ Step.Agrees ordered steps')
    {x y : Dimension} (hx : complete v steps = .ok x) (hy : complete v steps' = .ok y) : x = y := by
  apply ext_exponent
  intro b
  exact Exponent.complete_eq (horder.map _) (agrees_slot hforms b) (complete_slot hx b) (complete_slot hy b)

/-- Two orders of the same sums and differences that both have a result have the same one, to the stored
numbers, also if their operands are stored in different forms. This holds of dimensions and of single
exponents. -/
theorem complete_of_reordered :
    (∀ (a : Exponent) {c d : Exponent} {steps ordered steps' : List Exponent.Step},
      steps.Perm ordered → List.Forall₂ Exponent.Step.Agrees ordered steps' →
        a.complete steps = .ok c → a.complete steps' = .ok d → c.num = d.num ∧ c.den = d.den) ∧
    ∀ (v : Dimension) {x y : Dimension} {steps ordered steps' : List Step},
      steps.Perm ordered → List.Forall₂ Step.Agrees ordered steps' →
        v.complete steps = .ok x → v.complete steps' = .ok y →
          ∀ b, (x.exponent b).num = (y.exponent b).num ∧ (x.exponent b).den = (y.exponent b).den := by
  constructor
  · intro a c d steps ordered steps' horder hforms hc hd
    cases Exponent.complete_eq horder hforms hc hd
    exact ⟨rfl, rfl⟩
  · intro v x y steps ordered steps' horder hforms hx hy b
    cases complete_eq horder hforms hx hy
    exact ⟨rfl, rfl⟩

theorem complete_of_reordered_length :
    let half : Exponent := ⟨1, 2, by decide, by decide, by decide, by decide⟩
    let half' : Exponent := ⟨2, 4, by decide, by decide, by decide, by decide⟩
    let third : Exponent := ⟨1, 3, by decide, by decide, by decide, by decide⟩
    let third' : Exponent := ⟨3, 9, by decide, by decide, by decide, by decide⟩
    let a : Exponent := ⟨4, 6, by decide, by decide, by decide, by decide⟩
    let greatest : Exponent := .whole (2 ^ 31 - 1)
    (∃ c d, a.complete [.add half, .sub third] = .ok c ∧ a.complete [.sub third', .add half'] = .ok d ∧
      c.num = d.num ∧ c.den = d.den) ∧
    (∃ x y, complete { length := a } [.add { length := half }, .sub { length := third }] = .ok x ∧
      complete { length := a } [.sub { length := third' }, .add { length := half' }] = .ok y ∧
        ∀ b, (x.exponent b).num = (y.exponent b).num ∧ (x.exponent b).den = (y.exponent b).den) ∧
    greatest.complete [.add .one, .sub .one] = .error .outOfRange ∧
    greatest.complete [.sub .one, .add .one] = .ok greatest := by
  intro half half' third third' a greatest
  let sum : Exponent := ⟨5, 6, by decide, by decide, by decide, by decide⟩
  refine ⟨?_, ?_, by decide +kernel, by decide +kernel⟩
  · have hc : a.complete [.add half, .sub third] = .ok sum := by decide +kernel
    have hd : a.complete [.sub third', .add half'] = .ok sum := by decide +kernel
    exact ⟨sum, sum, hc, hd, complete_of_reordered.1 a (.swap ..)
      (.cons (.sub (by decide)) (.cons (.add (by decide)) .nil)) hc hd⟩
  · have hx : complete { length := a } [.add { length := half }, .sub { length := third }] =
        .ok { length := sum } := by decide +kernel
    have hy : complete { length := a } [.sub { length := third' }, .add { length := half' }] =
        .ok { length := sum } := by decide +kernel
    exact ⟨_, _, hx, hy, complete_of_reordered.2 { length := a } (.swap ..)
      (.cons (.sub (by decide)) (.cons (.add (by decide)) .nil)) hx hy⟩

end Dimensional.Dimension
