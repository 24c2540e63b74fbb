import Dimensional.Proofs.Number.Reading
import Dimensional.Proofs.Quantity.Text
import Dimensional.Quantity.Reading

/-!
# Printed quantities are never misread

The text of a quantity is read as that quantity if the unit is registered. A composed unit is refused,
whatever is asked for: either it falls apart at its spaces, or it is one word and no known symbol.
-/

namespace Dimensional

open Text Registry

/-! ## What is read -/

theorem readParts_of_words {t : String} {number symbol : List Char} {x : Float}
    (ht : words t.toList = [number, symbol]) (hx : Number.read? number = some x) :
    readParts t = match findSymbol (.ofList symbol) with
      | none => .error (.unit (.ofList symbol))
      | some v => .ok (x, v) := by
  rw [readParts, ht]
  cases h : findSymbol (.ofList symbol) <;> simp only [hx, h]

theorem readParts_of_not_pair {t : String} (ht : ∀ number symbol, words t.toList ≠ [number, symbol]) :
    readParts t = .error (.format t) := by
  unfold readParts
  split
  · rename_i h
    exact absurd h (ht _ _)
  · rfl

theorem readParts_eq_ok {t : String} {x : Float} {v : Dimension} :
    readParts t = .ok (x, v) ↔ ∃ number symbol, words t.toList = [number, symbol] ∧
      Number.read? number = some x ∧ findSymbol (.ofList symbol) = some v := by
  constructor
  · intro h
    unfold readParts at h
    split at h
    · rename_i number symbol hwords
      split at h
      · contradiction
      · rename_i hx
        split at h
        · contradiction
        · rename_i hv
          cases h
          exact ⟨number, symbol, hwords, hx, hv⟩
    · contradiction
  · rintro ⟨number, symbol, hwords, hx, hv⟩
    rw [readParts_of_words hwords hx, hv]

@[simp]
theorem readQuantity_fst (e : DimensionExpr) (t : String) : (readQuantity e t).1 = checkQuantity e t := by
  unfold readQuantity
  split <;> rename_i h <;> rw [h]

theorem checkQuantity_of_error {e : DimensionExpr} {t : String} {err : ReadError}
    (h : readParts t = .error err) : checkQuantity e t = .error err := by
  rw [checkQuantity, h]
  rfl

theorem checkQuantity_of_ok {e : DimensionExpr} {w found : Dimension} {t : String} {x : Float}
    (hw : e.dimension = .ok w) (h : readParts t = .ok (x, found)) :
    checkQuantity e t =
      if w.Matches found then .ok ⟨x⟩ else .error (.dimension (.incompatible w found)) := by
  rw [checkQuantity, h, hw]
  change ((w.ensureMatches found).mapError ReadError.dimension >>= fun _ => .ok ⟨x⟩ :
    Except ReadError (Quantity e)) = _
  unfold Dimension.ensureMatches
  split <;> rfl

theorem checkQuantity_eq_ok {e : DimensionExpr} {w : Dimension} {t : String} {q : Quantity e}
    (hw : e.dimension = .ok w) :
    checkQuantity e t = .ok q ↔ ∃ found, readParts t = .ok (q.value, found) ∧ w.Matches found := by
  constructor
  · intro h
    cases hparts : readParts t with
    | error err =>
      rw [checkQuantity_of_error hparts] at h
      contradiction
    | ok parts =>
      obtain ⟨x, found⟩ := parts
      rw [checkQuantity_of_ok hw hparts] at h
      split at h
      · cases h
        exact ⟨found, rfl, ‹_›⟩
      · contradiction
  · rintro ⟨found, hparts, hm⟩
    rw [checkQuantity_of_ok hw hparts, if_pos hm]

/-! ## What is printed -/

theorem isWord_of_entry : ∀ r ∈ entries, IsWord r.symbol.toList := by
  decide +kernel

theorem words_number_unit (x : Float) (s : String) :
    words (Number.text {} x ++ " " ++ s).toList = (Number.text {} x).toList :: words s.toList := by
  rw [String.toList_append, String.toList_append, List.append_assoc]
  exact words_space (Number.isWord_text x) s.toList

theorem readParts_registered (x : Float) {r : Registration} (hr : r ∈ entries) :
    readParts (Number.text {} x ++ " " ++ r.symbol) = .ok (x, r.dimension) := by
  rw [readParts_eq_ok]
  refine ⟨_, r.symbol.toList, ?_, Number.read?_text x, ?_⟩
  · rw [words_number_unit, words_of_isWord (isWord_of_entry r hr)]
  · rw [String.ofList_toList, findSymbol_eq_some (entries_symbol r hr).2]
    exact ⟨r, hr, rfl, rfl⟩

theorem readParts_number (x : Float) :
    readParts (Number.text {} x) = .error (.format (Number.text {} x)) := by
  apply readParts_of_not_pair
  intro number symbol
  rw [words_of_isWord (Number.isWord_text x)]
  simp

theorem readParts_composed (x : Float) {v : Dimension} {s : String} (hv : lookup v = none)
    (hne : ¬ v.IsDimensionless) (hs : (UnitName.composed v).text = .ok s) :
    let t := Number.text {} x ++ " " ++ s
    readParts t = .error (.format t) ∨ readParts t = .error (.unit s) := by
  intro t
  obtain ⟨-, hwrite⟩ := UnitName.text_composed_eq_ok.mp hs
  have htrimmed : IsTrimmed s.toList := by
    rw [hwrite]
    apply Composition.isTrimmed_writeFraction
    rw [← hwrite, ne_eq, String.toList_eq_nil_iff]
    exact mt (UnitName.text_composed_eq_empty hs).mp hne
  have hwords : words t.toList = (Number.text {} x).toList :: words s.toList := words_number_unit x s
  -- a unit that is one word is that word, as it starts and ends with no blank
  by_cases hone : ∃ symbol, words s.toList = [symbol]
  · obtain ⟨symbol, hone⟩ := hone
    obtain rfl := htrimmed.eq_of_words hone
    right
    rw [hone] at hwords
    rw [readParts_of_words hwords (Number.read?_text x), String.ofList_toList,
      UnitName.findSymbol_text_composed hv hs]
  · left
    apply readParts_of_not_pair
    intro number symbol h
    rw [hwords] at h
    exact hone ⟨symbol, (List.cons.inj h).2⟩

theorem text_of_lookup {d : DimensionExpr} {v : Dimension} {s : String} (hd : d.ownSymbol = none)
    (hv : d.dimension = .ok v) (h : lookup v = some s) (x : Float) :
    (⟨x⟩ : Quantity d).text = .ok (Number.text {} x ++ " " ++ s) := by
  have hne : ¬ v.IsDimensionless := by
    intro hdim
    rw [lookup_of_isDimensionless hdim] at h
    contradiction
  have hs : (UnitName.forDimension v).text = .ok s := by
    rw [UnitName.forDimension_of_lookup h, UnitName.text_registered]
  rw [Quantity.text_of_unitText (Quantity.unitText_of_not_isDimensionless hd hv hne hs),
    String.append_assoc]

theorem exists_text_of_lookup_eq_none {d : DimensionExpr} {v : Dimension} {s : String}
    (hd : d.ownSymbol = none) (hv : d.dimension = .ok v) (h : lookup v = none)
    (hs : (UnitName.forDimension v).text = .ok s) (x : Float) :
    ∃ t, (⟨x⟩ : Quantity d).text = .ok t ∧
      (readParts t = .error (.format t) ∨ ∃ word, readParts t = .error (.unit word)) := by
  by_cases hdim : v.IsDimensionless
  · refine ⟨_, Quantity.text_of_unitText (Quantity.unitText_of_isDimensionless hd hv hdim) x, .inl ?_⟩
    rw [String.append_empty, readParts_number]
  · refine ⟨_, Quantity.text_of_unitText (Quantity.unitText_of_not_isDimensionless hd hv hdim hs) x, ?_⟩
    rw [UnitName.forDimension_of_none h] at hs
    rw [← String.append_assoc]
    exact (readParts_composed x h hdim hs).imp_right fun hunit => ⟨s, hunit⟩

theorem readParts_eq_ok_of_matches {t : String} {x : Float} {v found : Dimension}
    (h : readParts t = .ok (x, found)) (hm : v.Matches found) (hne : ¬ v.IsDimensionless) :
    ∃ number symbol, words t.toList = [number, symbol] ∧ lookup v = some (.ofList symbol) := by
  obtain ⟨number, symbol, hwords, -, hfound⟩ := readParts_eq_ok.mp h
  refine ⟨number, symbol, hwords, lookup_of_findSymbol hfound ?_ hm.symm⟩
  -- the symbol of angles is known without being registered
  intro hrad
  rw [hrad, findSymbol_radian, Option.some.injEq] at hfound
  subst hfound
  exact hne hm

/-! ## Reading what was printed -/

theorem readQuantity_registered {e : DimensionExpr} {v w : Dimension} {s : String} (x : Float)
    (hw : e.dimension = .ok w) (h : lookup v = some s) :
    ∃ found, found.Matches v ∧ (readQuantity e (Number.text {} x ++ " " ++ s)).1 =
      if v.Matches w then .ok ⟨x⟩ else .error (.dimension (.incompatible w found)) := by
  obtain ⟨r, hr, hm, rfl⟩ := lookup_eq_some.mp h
  have hiff : w.Matches r.dimension ↔ v.Matches w :=
    ⟨fun h => (h.trans hm).symm, fun h => h.symm.trans hm.symm⟩
  refine ⟨r.dimension, hm, ?_⟩
  rw [readQuantity_fst, checkQuantity_of_ok hw (readParts_registered x hr)]
  simp only [hiff]

theorem text_of_readQuantity {d : DimensionExpr} {v : Dimension} (hd : d.ownSymbol = none)
    (hv : d.dimension = .ok v) (hne : ¬ v.IsDimensionless) {t : String} {q : Quantity d}
    (h : (readQuantity d t).1 = .ok q) :
    ∃ number symbol, words t.toList = [number, symbol] ∧
      let t := Number.text {} q.value ++ " " ++ .ofList symbol
      q.text = .ok t ∧ (readQuantity d t).1 = .ok q := by
  rw [readQuantity_fst, checkQuantity_eq_ok hv] at h
  obtain ⟨found, hparts, hm⟩ := h
  obtain ⟨number, symbol, hwords, hlookup⟩ := readParts_eq_ok_of_matches hparts hm hne
  obtain ⟨_, -, hread⟩ := readQuantity_registered q.value hv hlookup
  rw [if_pos (hm.trans hm.symm)] at hread
  exact ⟨number, symbol, hwords, text_of_lookup hd hv hlookup q.value, hread⟩

/-- A printed quantity is read exactly if its unit is registered and its dimension is the one that is
asked for, and then its value is the one that was printed. Another dimension is refused as incompatible,
and a composed unit as no known unit. What is read is printed with the symbol that was read. -/
theorem readQuantity_printed {d e : DimensionExpr} {v w : Dimension} {name : UnitName} {s : String}
    (hd : d.ownSymbol = none) (hv : d.dimension = .ok v) (hw : e.dimension = .ok w)
    (hname : d.unitName = .ok name) (hs : name.text = .ok s) (x : Float) :
    (∃ t, (⟨x⟩ : Quantity d).text = .ok t ∧
      (∀ q, (readQuantity e t).1 = .ok q ↔ IsRegistered v ∧ v.Matches w ∧ q = ⟨x⟩) ∧
      (IsRegistered v → ¬ v.Matches w → ∃ found, found.Matches v ∧
        (readQuantity e t).1 = .error (.dimension (.incompatible w found))) ∧
      (¬ IsRegistered v →
        (readQuantity e t).1 = .error (.format t) ∨ ∃ word, (readQuantity e t).1 = .error (.unit word))) ∧
    ∀ (u : String) (q : Quantity d), ¬ v.IsDimensionless → (readQuantity d u).1 = .ok q →
      ∃ number symbol, words u.toList = [number, symbol] ∧
        let t := Number.text {} q.value ++ " " ++ .ofList symbol
        q.text = .ok t ∧ (readQuantity d t).1 = .ok q := by
  rw [DimensionExpr.unitName_of_ownSymbol hd hv, Except.ok.injEq] at hname
  subst hname
  refine ⟨?_, fun u q hne hq => text_of_readQuantity hd hv hne hq⟩
  cases hlookup : lookup v with
  | some symbol =>
    have hreg := isRegistered_of_lookup hlookup
    obtain ⟨found, hfound, hread⟩ := readQuantity_registered x hw hlookup
    refine ⟨_, text_of_lookup hd hv hlookup x, fun q => ?_, fun _ hne => ⟨found, hfound, ?_⟩,
      fun h => absurd hreg h⟩
    · rw [hread]
      by_cases h : v.Matches w
      · simp [h, hreg, eq_comm]
      · simp [h]
    · rw [hread, if_neg hne]
  | none =>
    have hreg := not_isRegistered_of_lookup hlookup
    obtain ⟨t, ht, hparts⟩ := exists_text_of_lookup_eq_none hd hv hlookup hs x
    have hread : (readQuantity e t).1 = .error (.format t) ∨
        ∃ word, (readQuantity e t).1 = .error (.unit word) := by
      rw [readQuantity_fst]
      exact hparts.imp checkQuantity_of_error fun ⟨word, h⟩ => ⟨word, checkQuantity_of_error h⟩
    refine ⟨t, ht, fun q => ⟨fun hq => ?_, fun h => absurd h.1 hreg⟩, fun h => absurd h hreg,
      fun _ => hread⟩
    rw [hq] at hread
    rcases hread with h | ⟨word, h⟩ <;> contradiction

theorem readQuantity_printed_joule :
    let v : Dimension := { length := .whole 2, mass := .whole 1, time := .whole (-2) }
    let x : Float := .ofBits 0x4004000000000000
    Dim.energy.dimension = .ok v ∧ Dim.momentOfForce.dimension = .ok v ∧
      (∃ t, (⟨x⟩ : Quantity Dim.energy).text = .ok t ∧
        (readQuantity Dim.momentOfForce t).1 = .ok ⟨x⟩) ∧
      (readQuantity Dim.energy " 25e-1\tJ").1 = .ok ⟨x⟩ ∧
        ∃ t, (⟨x⟩ : Quantity Dim.energy).text = .ok t ∧ (readQuantity Dim.energy t).1 = .ok ⟨x⟩ := by
  intro v x
  have hd : Dim.energy.dimension = .ok v := by decide +kernel
  have he : Dim.momentOfForce.dimension = .ok v := by decide +kernel
  have hname : Dim.energy.unitName = .ok (.registered "J") := by rfl
  have hparts : readParts " 25e-1\tJ" = .ok (x, v) := by decide +kernel
  have hq : (readQuantity Dim.energy " 25e-1\tJ").1 = .ok ⟨x⟩ := by
    rw [readQuantity_fst, checkQuantity_eq_ok hd]
    exact ⟨v, hparts, by decide +kernel⟩
  obtain ⟨⟨t, ht, hread, -⟩, hagain⟩ :=
    readQuantity_printed rfl hd he hname (UnitName.text_registered "J") x
  have hreg : IsRegistered v := isRegistered_of_lookup (s := "J") (by decide +kernel)
  obtain ⟨_, symbol, -, hagain⟩ := hagain _ ⟨x⟩ (by decide +kernel) hq
  exact ⟨hd, he, ⟨t, ht, (hread ⟨x⟩).mpr ⟨hreg, by decide +kernel, rfl⟩⟩, hq, _, hagain⟩

end Dimensional
