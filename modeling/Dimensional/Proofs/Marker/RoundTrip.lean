import Dimensional.Proofs.Dimension.Value
import Dimensional.Proofs.Marker.Overflow
import Dimensional.Proofs.Marker.Printed
import Dimensional.Proofs.Marker.Source

/-!
# Dimensions written into declarations

A dimension goes into an attribute as the texts of its exponents and comes out of the code again: with the
numbers that it stores if the texts are the stored forms, and in lowest terms if the texts are. On the way
the sign of a denominator is moved as it is moved elsewhere, and stops at the same numbers.
-/

namespace Dimensional.Marker

open Outcome
open Exponent (numbers)
open Implementation (Code read? ofDeclaration ofDeclaration_eq_ok read?_tokens)

/-! ## Signs -/

variable {n d : Int}

theorem map_numbers_store (hn : IsStored n) (hpos : 0 < d) (hd : IsStored d) :
    (Exponent.store n d).map numbers = .ok (n, d) := by
  rw [Exponent.store, dif_pos ⟨hn, hpos, hd.2⟩]
  rfl

/-- An exponent stores the numbers whose signs are settled, and is refused where they cannot be. -/
theorem map_numbers_ofPair (hn : IsStored n) (hd : IsStored d) (hzero : d ≠ 0) :
    (Exponent.ofPair n d).map numbers = settleSigns n d := by
  rw [Exponent.ofPair, settleSigns, if_neg hzero]
  split_ifs with hneg
  · by_cases hnmin : n = -2 ^ 31
    · subst hnmin
      rfl
    rw [Exponent.negate_eq_ok.mpr ⟨hnmin, rfl⟩]
    by_cases hdmin : d = -2 ^ 31
    · subst hdmin
      rfl
    rw [Exponent.negate_eq_ok.mpr ⟨hdmin, rfl⟩]
    exact map_numbers_store (isStored_neg hn hnmin) (by omega) (isStored_neg hd hdmin)
  · exact map_numbers_store hn (by omega) hd

/-! ## Values -/

variable {l : Literal}

theorem signedExponent_eq_ofPair (q : Fraction) : signedExponent false q = Exponent.ofPair q.num q.den := by
  have hpair := map_numbers_ofPair q.num_stored q.den_stored q.den_ne_zero
  cases h : Exponent.ofPair q.num q.den with
  | ok e =>
    rw [h] at hpair
    rw [signedExponent_eq_ok_iff, Fraction.settle_false, ← hpair]
    rfl
  | error f =>
    rw [h] at hpair
    rw [signedExponent_eq_error_iff, Fraction.settle_false, ← hpair]
    rfl

theorem takeExponent_literal (hwrites : l.Writes n d) (hn : IsStored n) (hd : IsStored d) (hzero : d ≠ 0)
    (rest : List Token) :
    takeExponent (.literal l :: rest) = ((Exponent.ofPair n d).map (·, rest)).mapError .fault := by
  let q : Fraction := ⟨n, d, hn, hd, hzero⟩
  have hconstant : takeConstant (.literal l :: rest) = .ok (.ofLiteral l, rest) := rfl
  have hfraction : (Constant.ofLiteral l).fraction = .ok q := fraction_ofLiteral.mpr hwrites
  have hsigned : signedExponent false q = Exponent.ofPair n d := signedExponent_eq_ofPair q
  cases h : Exponent.ofPair n d with
  | ok e =>
    rw [h] at hsigned
    exact takeExponent_eq_ok_iff_fraction.mpr ⟨q, ⟨_, hconstant, hfraction⟩, hsigned⟩
  | error f =>
    rw [h] at hsigned
    exact takeExponent_eq_fault_iff_fraction.mpr ⟨q, rest, ⟨_, hconstant, hfraction⟩, hsigned⟩

theorem means_of_spells {text : List Char} {e : Exponent} (h : l.value = .string text)
    (hf : SpellsFraction text e.num e.den) : WrittenValue.Means ⟨[], l⟩ e := by
  refine ⟨e.num, e.den, .string h hf, ⟨e.num_ge, e.num_lt⟩, Int.ne_of_gt e.den_pos, Nat.zero_le _, nofun,
    ?_, ?_⟩
  · rw [Int.sign_eq_one_of_pos e.den_pos, List.length_nil, pow_zero, one_mul, one_mul]
  · rw [abs_of_pos e.den_pos]

/-! ## Entries -/

/-- Every base dimension is given the text of its exponent as a string, anywhere among the entries. Strings
may be given as symbols between them. -/
structure Assigns (text : Exponent → String) (v : Dimension) (ws : List (WrittenEntry × Option Bool)) :
    Prop where
  every : ∀ b, ∃ w ∈ ws, w.1.key = .slot b
  exponent : ∀ w ∈ ws, ∀ b, w.1.key = .slot b →
    ∃ l, w.1.value = ⟨[], l⟩ ∧ l.value = .string (text (v.exponent b)).toList
  symbol : ∀ w ∈ ws, w.1.key = .symbol → ∃ l text, w.1.value = ⟨[], l⟩ ∧ l.value = .string text

variable {text : Exponent → String} {form : Exponent → Exponent} {v : Dimension}
  {ws : List (WrittenEntry × Option Bool)} {bs : List BaseDimension}

/-- The text of an exponent spells the exponent in some form. -/
def SpellsForm (text : Exponent → String) (form : Exponent → Exponent) : Prop :=
  ∀ e, SpellsFraction (text e).toList (form e).num (form e).den

theorem Assigns.exists_means (h : Assigns text v ws) (htext : SpellsForm text form) :
    ∀ w ∈ ws, ∃ e, w.1.Means e := by
  intro w hw
  cases hkey : w.1.key with
  | slot b =>
    obtain ⟨l, hvalue, hl⟩ := h.exponent w hw b hkey
    exact ⟨_, .exponent hkey (hvalue ▸ means_of_spells hl (htext _))⟩
  | symbol =>
    obtain ⟨l, t, hvalue, hl⟩ := h.symbol w hw hkey
    exact ⟨_, .symbol hkey hvalue hl⟩

theorem Assigns.means_last (h : Assigns text v ws) (htext : SpellsForm text form) (b : BaseDimension) :
    MeansOr .zero (values (.slot b) ws).getLast? (form (v.exponent b)) := by
  obtain ⟨w, hw, hkey⟩ := h.every b
  have hne : values (.slot b) ws ≠ [] := List.ne_nil_of_mem (mem_values.mpr ⟨w, hw, hkey, rfl⟩)
  rw [List.getLast?_eq_some_getLast hne]
  obtain ⟨u, hu, hukey, hvalue⟩ := mem_values.mp (List.getLast_mem hne)
  obtain ⟨l, huvalue, hl⟩ := h.exponent u hu b hukey
  rw [← hvalue, huvalue]
  exact means_of_spells hl (htext _)

theorem assigns_assign (h : ∀ b, b ∈ bs) : Assigns text v (assign text v bs) where
  every b := ⟨_, List.mem_map_of_mem (h b), rfl⟩
  exponent w hw b hkey := by
    obtain ⟨c, -, rfl⟩ := List.mem_map.mp hw
    cases hkey
    exact ⟨_, rfl, rfl⟩
  symbol w hw hkey := by
    obtain ⟨c, -, rfl⟩ := List.mem_map.mp hw
    contradiction

theorem hasArguments_annotated (ws : List (WrittenEntry × Option Bool)) :
    (annotated ws).HasArguments (writeAll ws) :=
  ⟨[], _, [], rfl, List.forall_mem_nil _, rfl, rfl⟩

/-! ## Declarations -/

/-- The code gives the numbers that `v` stores, and exponents are built of them without a change. -/
structure Code.Stores (c : Code) (v : Dimension) : Prop where
  ratios : c.ratios = BaseDimension.all.map fun b => numbers (v.exponent b)
  built : c.ratios.mapM (fun r => Exponent.ofPair r.1 r.2) = .ok (BaseDimension.all.map v.exponent)

/-- There is an implementation, and its code stores `v`. -/
def Gives (r : Except MarkerError Implementation) (v : Dimension) : Prop :=
  ∃ i c, r = .ok i ∧ read? i.tokens = some c ∧ Code.Stores c v

theorem mapM_ofPair_numbers (es : List Exponent) :
    (es.map numbers).mapM (fun r => Exponent.ofPair r.1 r.2) = .ok es := by
  induction es with
  | nil => rfl
  | cons e es ih =>
    rw [List.map_cons, List.mapM_cons, bind_eq_ok]
    exact ⟨e, Exponent.ofPair_stored e, bind_eq_ok.mpr ⟨es, ih, rfl⟩⟩

theorem gives_of_assigns {d : Declaration} (htext : SpellsForm text form)
    (hd : d.HasArguments (writeAll ws)) (h : Assigns text v ws) :
    Gives (ofDeclaration d) (.ofFn fun b => form (v.exponent b)) := by
  let a : Annotation := {
    dimension := .ofFn fun b => form (v.exponent b)
    symbol := (values .symbol ws).getLast?.map (·.literal) }
  have hsays : a.Says ws := by
    refine ⟨fun b => ?_, rfl⟩
    rw [Dimension.exponent_ofFn]
    exact h.means_last htext b
  have ha : Annotation.ofTokens (writeAll ws) = .ok a :=
    Annotation.ofTokens_eq_ok.mpr ⟨ws, rfl, h.exists_means htext, hsays⟩
  refine ⟨⟨d.name, a⟩, _, ofDeclaration_eq_ok.mpr ⟨rfl, _, hd, ha⟩, read?_tokens _, rfl, ?_⟩
  have hratios := mapM_ofPair_numbers (BaseDimension.all.map a.dimension.exponent)
  rwa [List.map_map] at hratios

theorem gives_of_stored {d : Declaration} (hd : d.HasArguments (writeAll ws))
    (h : Assigns Exponent.stored v ws) : Gives (ofDeclaration d) v := by
  have hv : v = .ofFn fun b => v.exponent b := Dimension.ext_exponent fun b => by
    rw [Dimension.exponent_ofFn]
  have hform : SpellsForm Exponent.stored id := spellsFraction_stored
  rw [hv]
  exact gives_of_assigns hform hd h

theorem gives_of_text {d : Declaration} (hd : d.HasArguments (writeAll ws))
    (h : Assigns Exponent.text v ws) : Gives (ofDeclaration d) v.lowest :=
  gives_of_assigns spellsFraction_text hd h

theorem ofText_source (hchars : ∀ e, ∀ c ∈ (text e).toList, Exponent.IsTextChar c) (v : Dimension)
    (bs : List BaseDimension) :
    Implementation.ofText (source text v bs) = ofDeclaration (annotated (assign text v bs)) := by
  rw [Implementation.ofText, read_source v hchars]

end Dimensional.Marker
