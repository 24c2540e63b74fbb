import Dimensional.Proofs.Composition.Stop
import Dimensional.Proofs.Matching
import Dimensional.Proofs.Quantity.Text

/-!
# Units of derived dimensions

A dimension that is built by a constructor stores the least numerator only in lowest terms: sums, powers
and roots are reduced, and a reciprocal never has that numerator. So the slot at which its name stops
depends on its value alone, and quantities of one derived dimension are shown alike, however the
dimension is written.
-/

namespace Dimensional

/-! ## Where the least numerator is stored -/

namespace Exponent

variable {a b c : Exponent}

/-- The least numerator is stored in lowest terms only. -/
def Settled (a : Exponent) : Prop := a.num = -2 ^ 31 → a.Reduced

theorem num_of_matches (h : a.Matches b) (ha : a.num = -2 ^ 31) (hreduced : a.Reduced) :
    b.num = -2 ^ 31 := by
  have hdvd : a.num ∣ b.num := by
    apply Int.dvd_of_dvd_mul_left_of_gcd_one _ hreduced
    exact ⟨b.den, h.symm⟩
  obtain ⟨k, hk⟩ := hdvd
  rw [ha] at hk
  have hge := b.num_ge
  have hlt := b.num_lt
  have hne : k ≠ 0 := by
    rintro rfl
    have hden := b.den_pos
    unfold Matches at h
    rw [ha, hk] at h
    omega
  omega

theorem settled_of_reduced (h : a.Reduced) : a.Settled := fun _ => h

theorem settled_of_neg (h : a.neg = .ok c) : c.Settled := by
  intro hc
  have hnum := (neg_eq_ok.mp h).1
  have := a.num_lt
  omega

end Exponent

namespace Dimension

variable {v w : Dimension}

/-- Every exponent stores the least numerator in lowest terms only. -/
def Settled (v : Dimension) : Prop := ∀ b, (v.exponent b).Settled

theorem settled_lowest (v : Dimension) : v.lowest.Settled := by
  intro b
  rw [exponent_lowest]
  exact Exponent.settled_of_reduced (v.exponent b).reduced_reduce

theorem stop?_congr (h : v.Matches w) (hv : v.Settled) (hw : w.Settled) :
    Composition.stop? v = Composition.stop? w := by
  unfold Composition.stop?
  congr 1
  funext b
  apply decide_eq_decide.mpr
  constructor
  · intro hb
    exact Exponent.num_of_matches (h b) hb (hv b hb)
  · intro hb
    exact Exponent.num_of_matches (h b).symm hb (hw b hb)

end Dimension

/-! ## Expressions with a constructor -/

namespace DimensionExpr

variable {d : DimensionExpr} {v : Dimension}

/-- The expression is more than a marker. -/
def IsConstructed : DimensionExpr → Prop
  | marker _ _ => False
  | _ => True

theorem IsConstructed.ownSymbol (h : d.IsConstructed) : d.ownSymbol = none := by
  cases d with
  | marker => exact h.elim
  | _ => rfl

theorem IsConstructed.settled (h : d.IsConstructed) (hv : d.dimension = .ok v) : v.Settled := by
  cases d with
  | marker => exact h.elim
  | prod d e =>
    obtain ⟨x, -, hv⟩ := Outcome.bind_eq_ok.mp hv
    obtain ⟨y, -, hv⟩ := Outcome.bind_eq_ok.mp hv
    exact fun b => Exponent.settled_of_reduced (Exponent.reduced_of_add (Dimension.build_eq_ok.mp hv b))
  | quot d e =>
    obtain ⟨x, -, hv⟩ := Outcome.bind_eq_ok.mp hv
    obtain ⟨y, -, hv⟩ := Outcome.bind_eq_ok.mp hv
    obtain ⟨y', -, hv⟩ := Outcome.bind_eq_ok.mp hv
    exact fun b => Exponent.settled_of_reduced (Exponent.reduced_of_add (Dimension.build_eq_ok.mp hv b))
  | recip d =>
    obtain ⟨x, -, hv⟩ := Outcome.bind_eq_ok.mp hv
    exact fun b => Exponent.settled_of_neg (Dimension.build_eq_ok.mp hv b)
  | pow d k =>
    obtain ⟨x, -, hv⟩ := Outcome.bind_eq_ok.mp hv
    exact fun b => Exponent.settled_of_reduced (Exponent.reduced_of_scale (Dimension.build_eq_ok.mp hv b))
  | sqrt d =>
    obtain ⟨x, -, hv⟩ := Outcome.bind_eq_ok.mp hv
    exact fun b => Exponent.settled_of_reduced (Exponent.reduced_of_halve (Dimension.build_eq_ok.mp hv b))

theorem shownUnit_of_ownSymbol (hd : d.ownSymbol = none) (hv : d.dimension = .ok v) (alternate : Bool) :
    d.shownUnit alternate =
      .ok (if alternate ∧ ¬ v.IsDimensionless then .composed v else .forDimension v) := by
  unfold shownUnit
  rw [unitName_of_ownSymbol hd hv, hv]
  cases alternate with
  | false => rfl
  | true =>
    by_cases h : v.IsDimensionless
    · simp [bind, Except.bind, h]
    · simp [bind, Except.bind, pure, Except.pure, h]

end DimensionExpr

namespace Quantity

variable {d e : DimensionExpr} {v w : Dimension}

theorem unitText_of_shownUnit {n : UnitName} {alternate : Bool} (h : d.shownUnit alternate = .ok n) :
    unitText d alternate =
      if n.IsEmpty then .ok "" else if alternate then .ok (" " ++ n.alternate)
      else n.text.map (" " ++ ·) := by
  unfold unitText
  rw [h]
  change (if n.IsEmpty then _ else _) = _
  split_ifs
  · rfl
  · rfl
  · cases n.text <;> rfl

theorem unitText_congr (hd : d.ownSymbol = none) (he : e.ownSymbol = none) (hv : d.dimension = .ok v)
    (hw : e.dimension = .ok w) (h : v.Matches w) (hstop : Composition.stop? v = Composition.stop? w)
    (alternate : Bool) : unitText d alternate = unitText e alternate := by
  have hdim := Dimension.isDimensionless_congr h
  rw [unitText_of_shownUnit (DimensionExpr.shownUnit_of_ownSymbol hd hv alternate),
    unitText_of_shownUnit (DimensionExpr.shownUnit_of_ownSymbol he hw alternate)]
  cases alternate with
  | false => simp [UnitName.isEmpty_forDimension, hdim, UnitName.text_congr_of_stop? h hstop]
  | true =>
    by_cases hw : w.IsDimensionless
    · simp [UnitName.isEmpty_forDimension, hdim, hw]
    · simp [UnitName.IsEmpty, UnitName.alternate, hdim, hw, Composition.exponents_congr h]

theorem text_congr (hd : d.ownSymbol = none) (he : e.ownSymbol = none) (hv : d.dimension = .ok v)
    (hw : e.dimension = .ok w) (h : v.Matches w) (hstop : Composition.stop? v = Composition.stop? w)
    (x : Float) (f : Number.Format) (alternate : Bool) :
    (⟨x⟩ : Quantity d).text f alternate = (⟨x⟩ : Quantity e).text f alternate := by
  unfold text
  rw [unitText_congr hd he hv hw h hstop]

theorem hasUnit_congr (hd : d.ownSymbol = none) (he : e.ownSymbol = none) (hv : d.dimension = .ok v)
    (hw : e.dimension = .ok w) (h : v.Matches w) (hstop : Composition.stop? v = Composition.stop? w)
    (p : Quantity d) (q : Quantity e) (t : String) : p.hasUnit t = q.hasUnit t := by
  unfold hasUnit
  rw [DimensionExpr.unitName_of_ownSymbol hd hv, DimensionExpr.unitName_of_ownSymbol he hw]
  exact UnitName.matchesText_congr_of_stop? h hstop t

/-- Two constructed expressions of one dimension have one unit name. Their quantities are shown alike in
every format, answer alike to every symbol, and are shown like those of a marker without a symbol that
stores the lowest terms. -/
theorem shown_alike_of_matches (hd : d.IsConstructed) (he : e.IsConstructed) (hv : d.dimension = .ok v)
    (hw : e.dimension = .ok w) (h : v.Matches w) :
    (∃ m n, d.unitName = .ok m ∧ e.unitName = .ok n ∧ m.Same n ∧ m.text = n.text) ∧
    (∀ (x : Float) (f : Number.Format) (alternate : Bool),
      (⟨x⟩ : Quantity d).text f alternate = (⟨x⟩ : Quantity e).text f alternate) ∧
    (∀ (p : Quantity d) (q : Quantity e) (t : String), p.hasUnit t = q.hasUnit t) ∧
    ∀ (x : Float) (f : Number.Format) (alternate : Bool),
      (⟨x⟩ : Quantity d).text f alternate =
        (⟨x⟩ : Quantity (.marker v.lowest)).text f alternate := by
  have hstop := Dimension.stop?_congr h (hd.settled hv) (he.settled hw)
  have hlowest := v.matches_lowest
  have hstop' := Dimension.stop?_congr hlowest (hd.settled hv) v.settled_lowest
  refine ⟨⟨_, _, DimensionExpr.unitName_of_ownSymbol hd.ownSymbol hv,
    DimensionExpr.unitName_of_ownSymbol he.ownSymbol hw, UnitName.same_forDimension_iff.mpr h,
    UnitName.text_congr_of_stop? h hstop⟩, ?_, ?_, ?_⟩
  · exact text_congr hd.ownSymbol he.ownSymbol hv hw h hstop
  · exact hasUnit_congr hd.ownSymbol he.ownSymbol hv hw h hstop
  · exact text_congr hd.ownSymbol rfl hv rfl hlowest hstop'

theorem shown_alike_of_matches_root :
    let d : DimensionExpr :=
      .recip (.marker { length := ⟨6, 4, by decide, by decide, by decide, by decide⟩ } (some "span"))
    let e : DimensionExpr := .sqrt (.pow Dim.length (-3))
    let v : Dimension := { length := ⟨-6, 4, by decide, by decide, by decide, by decide⟩ }
    let w : Dimension := { length := ⟨-3, 2, by decide, by decide, by decide, by decide⟩ }
    d.dimension = .ok v ∧ e.dimension = .ok w ∧ v.Matches w ∧
      (∀ (x : Float) (f : Number.Format) (alternate : Bool),
        (⟨x⟩ : Quantity d).text f alternate = (⟨x⟩ : Quantity e).text f alternate) ∧
      ∀ p : Quantity d, p.hasUnit "1/m^(3/2)" = .ok true := by
  intro d e v w
  have hv : d.dimension = .ok v := by decide +kernel
  have hw : e.dimension = .ok w := by decide +kernel
  have h : v.Matches w := by decide +kernel
  obtain ⟨-, htext, hunit, -⟩ := shown_alike_of_matches (d := d) (e := e) trivial trivial hv hw h
  refine ⟨hv, hw, h, htext, ?_⟩
  intro p
  rw [hunit p (zero : Quantity e) "1/m^(3/2)"]
  decide +kernel

end Quantity

end Dimensional
