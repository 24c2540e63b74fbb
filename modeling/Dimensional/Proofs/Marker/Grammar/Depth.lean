import Dimensional.Proofs.Marker.Grammar.Items

/-!
# The depth of the grammar

A phrase that starts with another at the same token is of a higher rank, and there are three ranks. So a scan
for phrases down to a depth of more than three times the number of tokens never comes to its end, and the
grammar is what its levels say of it.
-/

namespace Dimensional.Marker

variable {k n d d' : ℕ} {t : Bool} {S S' : PhraseScan} {p : Phrase} {place : Place}

/-- One level of the grammar tells scans for phrases apart only behind a token or in a lower rank. -/
theorem Alike.level (h : Alike k p.rank S S') : Agrees k t (S.level p) (S'.level p) false := by
  cases p with
  | type plus =>
    have : Alike k (0 + 1) S S' := h
    exact inferInstanceAs (Agrees k t (S.type plus) (S'.type plus) false)
  | expression structs =>
    have : Alike k (0 + 1) S S' := h
    exact inferInstanceAs (Agrees k t (S.expression structs) (S'.expression structs) false)
  | bounded =>
    have : Alike k (0 + 1) S S' := h
    exact inferInstanceAs (Agrees k t S.bounded S'.bounded false)
  | rightSide structs q =>
    have : Alike k (0 + 1) S S' := h
    exact inferInstanceAs (Agrees k t (S.rightSide structs q) (S'.rightSide structs q) false)
  | statements =>
    have : Alike k (0 + 2) S S' := h
    exact inferInstanceAs (Agrees k t S.statements S'.statements false)
  | operand structs => exact inferInstanceAs (Agrees k t (S.operand structs) (S'.operand structs) false)
  | pattern => exact inferInstanceAs (Agrees k t S.pattern S'.pattern false)
  | item => exact inferInstanceAs (Agrees k t S.item S'.item false)
  | imports rooted => exact inferInstanceAs (Agrees k t (S.imports rooted) (S'.imports rooted) false)
  | bound rule =>
    change Agrees k t (S.bound rule) (S'.bound rule) false
    exact .infer
  | fields =>
    change Agrees k t S.fields S'.fields false
    exact .infer

theorem Phrase.rank_le (p : Phrase) : p.rank ≤ 2 := by
  cases p <;> simp [rank]

theorem Agrees.of_lt {α : Type} {f f' : Scan α} {u : Bool} (h : ∀ j < k, Agrees j false f f' u) :
    Agrees k true f f' u where
  same place hplace := (h place.size hplace).same place (Nat.le_refl _)
  size_le {place _ _} hplace hf := (h place.size hplace).size_le (Nat.le_refl _) hf

theorem phraseToDepth_agrees (hd : 3 * k + p.rank < d) (hd' : 3 * k + p.rank < d') :
    Agrees k t (phraseToDepth d p) (phraseToDepth d' p) false := by
  induction d generalizing d' k p t with
  | zero => omega
  | succ d ih =>
    cases d' with
    | zero => omega
    | succ d' =>
      refine Alike.level ⟨fun t q hq => ?_⟩
      obtain rfl | hrank := hq.reach
      · have := q.rank_le
        exact .of_lt fun j hj => ih (by omega) (by omega)
      · exact ih (by omega) (by omega)

theorem phraseToDepth_eq (hd : 3 * place.size + p.rank < d) (hd' : 3 * place.size + p.rank < d') :
    phraseToDepth d p place = phraseToDepth d' p place :=
  (phraseToDepth_agrees (t := false) hd hd').same place (Nat.le_refl _)

theorem phrase_apply : phrase p place = phraseToDepth (8 * (place.size + 1)) p place := rfl

theorem phrase_eq_phraseToDepth (hd : 3 * place.size + p.rank < d) :
    phrase p place = phraseToDepth d p place := by
  have := p.rank_le
  rw [phrase_apply]
  exact phraseToDepth_eq (by omega) hd

theorem phraseToDepth_agrees_phrase (hd : 3 * k + p.rank < d) :
    Agrees k t (phraseToDepth d p) (phrase p) false where
  same place hplace := by
    have : place.size ≤ k := Nat.le_of_add_right_le hplace
    exact (phrase_eq_phraseToDepth (by omega)).symm
  size_le hplace h := (phraseToDepth_agrees hd hd).size_le hplace h

/-- The grammar is given by its levels: the scan for phrases is one level over itself. -/
theorem phrase_eq_level : phrase = phrase.level := by
  funext p place
  have hrank := p.rank_le
  have halike : Alike place.size p.rank (phraseToDepth (3 * place.size + 3)) phrase :=
    ⟨fun t q _ => phraseToDepth_agrees_phrase (by have := q.rank_le; omega)⟩
  calc phrase p place
      = phraseToDepth (3 * place.size + 4) p place := phrase_eq_phraseToDepth (by omega)
    _ = (phraseToDepth (3 * place.size + 3)).level p place := rfl
    _ = phrase.level p place := (halike.level (t := false)).same place (Nat.le_refl _)

end Dimensional.Marker
