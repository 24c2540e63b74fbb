import Dimensional.Proofs.Quantity.Derived

/-!
# Comparing names with texts

A name is compared with a text piece by piece, and no whole text is made. The answer is that of the whole
text, if there is one. Where writing would stop, the comparison stops only if it has to go that far.
-/

namespace Dimensional

open Dimensional.Composition

namespace UnitName

/-! ## Names -/

theorem isEmpty_iff_of_text {n : UnitName} {s : String} (h : n.text = .ok s) : n.IsEmpty ↔ s = "" := by
  cases n with
  | registered symbol =>
    rw [text_registered, Except.ok.injEq] at h
    rw [IsEmpty, String.isEmpty_iff, h]
  | composed v => exact (text_composed_eq_empty h).symm

theorem text_of_isEmpty {n : UnitName} (h : n.IsEmpty) : n.text = .ok "" := by
  cases n with
  | registered symbol =>
    rw [IsEmpty, String.isEmpty_iff] at h
    rw [text_registered, h]
  | composed v =>
    have hzero : ∀ b, (v.exponent b).num = 0 :=
      fun b => Exponent.isZero_iff_value.mpr (Dimension.isDimensionless_iff.mp h b)
    obtain ⟨s, hs⟩ := exists_text_composed.mpr fun b => by rw [hzero b]; decide
    rw [hs, (text_composed_eq_empty hs).mpr h]

theorem matchesText_pieces {n : UnitName} {s : String} (h : n.text = .ok s) {pieces : List String}
    (hpieces : String.join pieces = s) (t : String) :
    ({ pieces } : Rendering Fault).matchesText t = n.matchesText t := by
  have hwhole : ({ pieces } : Rendering Fault).text = .ok s := Rendering.text_eq_ok.mpr ⟨rfl, hpieces⟩
  rw [Rendering.matchesText_of_text hwhole, matchesText, Rendering.matchesText_of_text h]

theorem matchesText_composed_of_stop? {v : Dimension} {b : BaseDimension} (h : stop? v = some b)
    (t : String) :
    (composed v).matchesText t =
      if writtenBefore v b <+: t.toList then .error .negationOverflow else .ok false := by
  have hfault : (fraction v).fault = some .negationOverflow := fault_fraction_of_least (num_of_stop? h)
  rw [← written_fraction_of_stop? h]
  exact Rendering.matchesText_of_fault hfault t

theorem exists_stop?_of_text_composed {v : Dimension} {f : Fault} (h : (composed v).text = .error f) :
    f = .negationOverflow ∧ ∃ b, stop? v = some b := by
  have hfault := Rendering.text_eq_error.mp h
  change (fraction v).fault = _ at hfault
  rw [fault_fraction, Option.map_eq_some_iff] at hfault
  obtain ⟨b, hb, rfl⟩ := hfault
  exact ⟨rfl, b, hb⟩

end UnitName

/-! ## Quantities -/

namespace Quantity

variable {d : DimensionExpr} {s : String}

theorem exists_name_of_text {q : Quantity d} (h : q.text = .ok s) :
    ∃ name symbol, d.unitName = .ok name ∧ name.text = .ok symbol ∧
      s = Number.text {} q.value ++ if symbol = "" then "" else " " ++ symbol := by
  obtain ⟨unit, hunit, hs⟩ := Outcome.bind_eq_ok.mp h
  obtain ⟨name, hname, -⟩ := Outcome.bind_eq_ok.mp hunit
  rw [unitText_of_shownUnit hname] at hunit
  cases hs
  by_cases hempty : name.IsEmpty
  · rw [if_pos hempty, Except.ok.injEq] at hunit
    exact ⟨name, "", hname, UnitName.text_of_isEmpty hempty, by rw [← hunit, if_pos rfl]⟩
  · rw [if_neg hempty, if_neg (by simp), Outcome.map_eq_ok] at hunit
    obtain ⟨symbol, hsymbol, rfl⟩ := hunit
    rw [UnitName.isEmpty_iff_of_text hsymbol] at hempty
    exact ⟨name, symbol, hname, hsymbol, by rw [if_neg hempty]⟩

theorem behindNumber_inj {number symbol u : String} :
    (number ++ if symbol = "" then "" else " " ++ symbol) = number ++ (if u = "" then "" else " " ++ u) ↔
      symbol = u := by
  rw [String.append_right_inj]
  split_ifs with hs hu hu
  · simp [hs, hu]
  · simp [hs, Ne.symm hu]
  · simp [hs, hu]
  · rw [String.append_right_inj]

theorem hasUnit_of_text {q : Quantity d} (h : q.text = .ok s) (u : String) :
    q.hasUnit u =
      .ok (decide (s = Number.text {} q.value ++ if u = "" then "" else " " ++ u)) := by
  obtain ⟨name, symbol, hname, hsymbol, rfl⟩ := exists_name_of_text h
  rw [hasUnit, hname]
  simp only [behindNumber_inj]
  exact Rendering.matchesText_of_text hsymbol u

end Quantity

/-! ## Texts and comparisons -/

/-- A comparison with a name finds out whether its text is the given one, in whatever pieces that text is
written, and a name shows nothing exactly if its text is empty. If writing would stop at a slot, so does a
comparison with a text that starts with all that is written before, and every other text is told apart
before that. So a quantity has exactly the unit that is shown behind its number. -/
theorem matchesText_hasUnit_of_text :
    (∀ (n : UnitName) (s : String), n.text = .ok s →
      (∀ t, n.matchesText t = .ok (decide (s = t))) ∧
      (∀ (pieces : List String), String.join pieces = s →
        ∀ t, ({ pieces } : Rendering Fault).matchesText t = n.matchesText t) ∧
      (n.IsEmpty ↔ s = "") ∧ (s = "" ↔ n.matchesText "" = .ok true)) ∧
    (∀ (v : Dimension) (f : Fault), (UnitName.composed v).text = .error f →
      ∃ b, stop? v = some b ∧ ∀ t, (UnitName.composed v).matchesText t =
        if writtenBefore v b <+: t.toList then .error f else .ok false) ∧
    ∀ (d : DimensionExpr) (q : Quantity d) (s : String), q.text = .ok s → ∀ u,
      q.hasUnit u = .ok (decide (s = Number.text {} q.value ++ if u = "" then "" else " " ++ u)) := by
  refine ⟨fun n s hs => ⟨?_, ?_, ?_, ?_⟩, fun v f hf => ?_, fun d q s hs => q.hasUnit_of_text hs⟩
  · exact Rendering.matchesText_of_text hs
  · exact fun pieces hpieces => n.matchesText_pieces hs hpieces
  · exact UnitName.isEmpty_iff_of_text hs
  · rw [UnitName.matchesText, Rendering.matchesText_of_text hs, Except.ok.injEq, decide_eq_true_eq]
  · obtain ⟨rfl, b, hb⟩ := UnitName.exists_stop?_of_text_composed hf
    exact ⟨b, hb, UnitName.matchesText_composed_of_stop? hb⟩

theorem matchesText_hasUnit_of_text_stopped :
    let n : UnitName := .composed { length := .whole 2 }
    let v : Dimension := { length := .whole (-2), mass := .whole (-2 ^ 31), time := .whole 1 }
    let q : Quantity (.marker { length := .whole 2 } (some "")) := ⟨.ofBits 0x4004000000000000⟩
    n.text = .ok "m^2" ∧ n.matchesText "m^2" = .ok true ∧ n.matchesText "m^20" = .ok false ∧
      (UnitName.composed v).matchesText "s/m^2 kg" = .error .negationOverflow ∧
      (UnitName.composed v).matchesText "s/m^2" = .ok false ∧
      q.text = .ok "2.5" ∧ q.hasUnit "" = .ok true ∧ q.hasUnit "m^2" = .ok false := by
  intro n v q
  obtain ⟨hname, hstop, hunit⟩ := matchesText_hasUnit_of_text
  have hn : n.text = .ok "m^2" := by decide +kernel
  have hq : q.text = .ok "2.5" := by decide +kernel
  obtain ⟨hmatches, -⟩ := hname n _ hn
  obtain ⟨b, hb, hcompare⟩ := hstop v .negationOverflow (by decide +kernel)
  have hmass : b = .mass := Option.some.inj (hb.symm.trans (by decide +kernel))
  subst hmass
  refine ⟨hn, hmatches "m^2", (hmatches "m^20").trans (by decide), ?_, ?_, hq,
    (hunit _ q _ hq "").trans (by decide +kernel), (hunit _ q _ hq "m^2").trans (by decide +kernel)⟩
  · exact (hcompare "s/m^2 kg").trans (if_pos (by decide +kernel))
  · exact (hcompare "s/m^2").trans (if_neg (by decide +kernel))

end Dimensional
