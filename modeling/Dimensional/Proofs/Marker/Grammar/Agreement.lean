import Mathlib.Tactic.Common
import Dimensional.Marker.Grammar
import Dimensional.Outcome

/-!
# Scans that agree

Two scans for phrases agree as far as they are asked about few tokens. A scan that asks them about fewer than
it was given itself cannot tell them apart, so it is enough to know of each step whether it takes a token.
What is known of a scan is an instance, and `Agrees.infer` puts together those of its steps.
-/

namespace Dimensional.Marker

/-- The number of tokens ahead, those within groups included. -/
def Place.size (place : Place) : ℕ :=
  Token.sizeAll place.ahead

/-- At most `k` tokens are ahead, and fewer than `k` once one is taken. -/
def Place.Fits (place : Place) (k : ℕ) (taken : Bool) : Prop :=
  place.size + taken.toNat ≤ k

/-- The two scans are one where at most `k` tokens are ahead. No scan adds tokens, and one that takes some
leaves fewer. -/
class Agrees {α : Type} (k : ℕ) (taken : Bool) (f f' : Scan α) (takes : outParam Bool) : Prop where
  same : ∀ place : Place, place.Fits k taken → f place = f' place
  size_le : ∀ {place after : Place} {a : α}, place.Fits k taken → f place = .ok (a, after) →
    after.size + takes.toNat ≤ place.size

/-- The scan takes a token if it answers so. -/
class Accepts (f : Scan Bool) : Prop where
  size_le : ∀ {place after : Place} {b : Bool}, f place = .ok (b, after) → after.size + b.toNat ≤ place.size

/-- A token is taken. -/
class Taken (t : Bool) : Prop where
  eq_true : t = true

/-- How many phrases can start one with the other at the same token, below this one. -/
def Phrase.rank : Phrase → ℕ
  | .statements => 2
  | .type _ | .expression _ | .rightSide .. | .bounded => 1
  | .bound _ | .fields | .operand _ | .pattern | .item | .imports _ => 0

/-- The phrase may be asked for: behind a token, or in one of a higher rank. -/
class Reaches (t : Bool) (p : Phrase) (n : ℕ) : Prop where
  reach : t = true ∨ p.rank < n

/-- The scans for phrases agree behind a token, and those of a rank below `n` also before. -/
class Alike (k : ℕ) (n : outParam ℕ) (S S' : PhraseScan) : Prop where
  phrase : ∀ t p, Reaches t p n → Agrees k t (S p) (S' p) false

variable {α β : Type} {k n : ℕ} {t u v : Bool} {f f' : Scan α} {place after : Place} {a : α}

/-! ## Tokens taken -/

namespace Taken

instance now : Taken true := ⟨rfl⟩

instance left [h : Taken t] : Taken (t || u) := ⟨by rw [h.eq_true, Bool.true_or]⟩

instance right [h : Taken u] : Taken (t || u) := ⟨by rw [h.eq_true, Bool.or_true]⟩

instance both [ht : Taken t] [hu : Taken u] : Taken (t && u) :=
  ⟨by rw [ht.eq_true, hu.eq_true, Bool.true_and]⟩

end Taken

namespace Reaches

instance taken {p : Phrase} [h : Taken t] : Reaches t p n := ⟨.inl h.eq_true⟩

instance bound {rule : BoundRule} : Reaches t (.bound rule) (n + 1) := ⟨.inr n.succ_pos⟩

instance operand {structs : Bool} : Reaches t (.operand structs) (n + 1) := ⟨.inr n.succ_pos⟩

instance item : Reaches t .item (n + 1) := ⟨.inr n.succ_pos⟩

instance bounded : Reaches t .bounded (n + 2) := ⟨.inr (Nat.succ_lt_succ n.succ_pos)⟩

end Reaches

theorem Place.Fits.of_size_le (h : place.Fits k t) (hsize : after.size + u.toNat ≤ place.size) :
    after.Fits k (t || u) := by
  unfold Fits at h ⊢
  cases t with
  | true =>
    rw [Bool.true_or]
    omega
  | false =>
    rw [Bool.false_or]
    rw [Bool.toNat_false] at h
    omega

theorem Place.Fits.of_size_lt (h : place.Fits k t) (hsize : after.size < place.size) : after.Fits k true := by
  unfold Fits at h ⊢
  simp only [Bool.toNat_true]
  omega

theorem Place.Fits.mono (h : place.Fits k t) (hu : u → t) : place.Fits k u := by
  cases u with
  | true => rwa [hu rfl] at h
  | false => exact Nat.le_of_add_right_le h

/-! ## Steps one after the other -/

namespace Scan

theorem bind_apply (f : Scan α) (g : α → Scan β) (place : Place) :
    (f >>= g) place = match f place with
      | .ok (a, after) => g a after
      | .error c => .error c := by
  change (f place >>= fun r => g r.1 r.2) = _
  cases f place <;> rfl

theorem bind_eq_ok {g : α → Scan β} {b : β} :
    (f >>= g) place = .ok (b, after) ↔ ∃ a middle, f place = .ok (a, middle) ∧ g a middle = .ok (b, after) := by
  change (f place >>= fun r => g r.1 r.2) = _ ↔ _
  rw [Outcome.bind_eq_ok, Prod.exists]

theorem get_apply (place : Place) : (get : Scan Place) place = .ok (place, place) := rfl

theorem set_apply (place after : Place) : (set after : Scan PUnit) place = .ok (⟨⟩, after) := rfl

theorem modify_apply (g : Place → Place) (place : Place) : (modify g : Scan PUnit) place = .ok (⟨⟩, g place) :=
  rfl

end Scan

theorem Accepts.fits {q : Scan Bool} {b : Bool} (hq : Accepts q) (hplace : place.Fits k t)
    (h : q place = .ok (b, after)) : after.Fits k (t || b) :=
  hplace.of_size_le (hq.size_le h)

namespace Agrees

theorem fits (hf : Agrees k t f f' u) (hplace : place.Fits k t) (h : f place = .ok (a, after)) :
    after.Fits k (t || u) :=
  hplace.of_size_le (hf.size_le hplace h)

/-- What is inferred of a scan, as far as it is needed. -/
theorem infer [h : Agrees k t f f' u] (hu : v → u := by simp +contextual) : Agrees k t f f' v where
  same := h.same
  size_le hplace hf := by
    have hsize := h.size_le hplace hf
    cases v with
    | true => rwa [hu rfl] at hsize
    | false => exact Nat.le_of_add_right_le hsize

/-- What agrees agrees behind further tokens. -/
instance (priority := low) behind [h : Agrees k t f f' u] : Agrees k (t || v) f f' u where
  same place hplace := h.same place (hplace.mono (by simp +contextual))
  size_le hplace hf := h.size_le (hplace.mono (by simp +contextual)) hf

theorem bind_congr {g g' : α → Scan β} (hf : Agrees k t f f' u) (hplace : place.Fits k t)
    (hg : ∀ {a middle}, f place = .ok (a, middle) → g a middle = g' a middle) :
    (f >>= g) place = (f' >>= g') place := by
  rw [Scan.bind_apply, Scan.bind_apply, ← hf.same place hplace]
  cases h : f place with
  | error c => rfl
  | ok r => exact hg h

instance bind {g g' : α → Scan β} [hf : Agrees k t f f' u] [hg : ∀ a, Agrees k (t || u) (g a) (g' a) v] :
    Agrees k t (f >>= g) (f' >>= g') (u || v) where
  same place hplace := hf.bind_congr hplace fun h => (hg _).same _ (hf.fits hplace h)
  size_le {place after b} hplace h := by
    obtain ⟨a, middle, hfa, hga⟩ := Scan.bind_eq_ok.mp h
    have hmiddle := hf.size_le hplace hfa
    have hafter := (hg a).size_le (hf.fits hplace hfa) hga
    cases u with
    | true =>
      rw [Bool.toNat_true] at hmiddle
      rw [Bool.true_or, Bool.toNat_true]
      omega
    | false =>
      rw [Bool.toNat_false] at hmiddle
      rw [Bool.false_or]
      omega

theorem chain {g g' : α → Scan β} [Agrees k t f f' u] (hg : ∀ a, Agrees k (t || u) (g a) (g' a) v) :
    Agrees k t (f >>= g) (f' >>= g') v :=
  .infer

instance pure (a : α) : Agrees k t (pure a) (pure a) false where
  same _ _ := rfl
  size_le _ h := by
    cases h
    exact Nat.le_refl _

instance throw (c : Complaint) : Agrees k t (throw c : Scan α) (throw c) true where
  same _ _ := rfl
  size_le _ h := nomatch h

instance ite {c : Prop} [Decidable c] {A A' B B' : Scan α} [hA : Agrees k t A A' u] [hB : Agrees k t B B' v] :
    Agrees k t (if c then A else B) (if c then A' else B') (u && v) := by
  split
  · exact hA.infer
  · exact hB.infer

instance accepts {q : Scan Bool} [hq : Accepts q] : Agrees k t q q false where
  same _ _ := rfl
  size_le _ h := Nat.le_of_add_right_le (hq.size_le h)

/-- Behind the answer that a token is taken, phrases may be asked for. -/
instance cond {q : Scan Bool} {A A' B B' : Scan α} [hq : Accepts q] [hA : Agrees k true A A' u]
    [hB : Agrees k t B B' v] :
    Agrees k t (q >>= fun b => if b = true then A else B) (q >>= fun b => if b = true then A' else B') v where
  same place hplace := by
    refine accepts.bind_congr hplace fun {b middle} h => ?_
    have hmiddle := hq.fits hplace h
    cases b with
    | true => exact hA.same middle (by simpa using hmiddle)
    | false => exact hB.same middle (by simpa using hmiddle)
  size_le {place after a} hplace h := by
    obtain ⟨b, middle, hqb, hb⟩ := Scan.bind_eq_ok.mp h
    have hmiddle := hq.size_le hqb
    have hfits := hq.fits hplace hqb
    cases b with
    | true =>
      have hafter := hA.size_le (by simpa using hfits) hb
      have := v.toNat_le
      rw [Bool.toNat_true] at hmiddle
      omega
    | false =>
      have hafter := hB.size_le (by simpa using hfits) hb
      rw [Bool.toNat_false] at hmiddle
      omega

end Agrees

end Dimensional.Marker
