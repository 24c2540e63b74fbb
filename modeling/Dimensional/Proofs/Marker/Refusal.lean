import Dimensional.Proofs.Marker.Overflow

/-!
# What is wrong with an attribute

The inside of the dimension attribute is read entry by entry. If an entry cannot be completed, one token
shows it, or the end of the tokens does. This token and what stands before it in its entry decide the error.
The entries before and the tokens behind play no part.
-/

namespace Dimensional.Marker

open Outcome

variable {tokens rest : List Token} {err : MarkerError}

/-! ## Constants -/

/-- Why a value without a minus of its own is no fraction. -/
inductive Value.Refused : Value → MarkerError → Prop where
  | tooLarge {k : Nat} {suffixed : Bool} (hk : 2 ^ 31 ≤ k) : (integer k suffixed).Refused .tooLarge
  | notFraction {text : List Char} (h : ∀ n d, SpellsFraction text n d → ¬ (IsStored n ∧ IsStored d)) :
    (string text).Refused (.notFraction (.ofList text))
  | zeroDenominator {text : List Char} {n : Int} (h : SpellsFraction text n 0) (hn : IsStored n) :
    (string text).Refused .zeroDenominator
  | float : float.Refused .notExponent
  | other : other.Refused .notExponent

/-- Why a value with a minus of its own is no fraction. Only a number has one. -/
inductive Value.RefusedNegated : Value → MarkerError → Prop where
  | tooSmall {k : Nat} {suffixed : Bool} (hk : 2 ^ 31 < k) : (integer k suffixed).RefusedNegated .tooSmall
  | string {text : List Char} : (string text).RefusedNegated (.entry (.expected ["literal"] false))
  | float : float.RefusedNegated .notExponent
  | other : other.RefusedNegated (.entry (.expected ["literal"] false))

/-- The name is a truth value. -/
def Name.IsTruth (n : Name) : Prop := n ∈ [{ text := "true" }, { text := "false" }]

/-- A constant may start with the token. At the end there is none. -/
inductive StartsConstant : Option Token → Prop where
  | literal {l : Literal} : StartsConstant (some (.literal l))
  | minus {joint : Bool} : StartsConstant (some (.mark '-' joint))
  | truth {n : Name} (hn : n.IsTruth) : StartsConstant (some (.name n))

/-- There is no constant with a fraction because of the token that stands behind `front`. -/
inductive StopsConstant : List Token → Option Token → MarkerError → Prop where
  | missing {t : Option Token} (ht : ¬ StartsConstant t) :
    StopsConstant [] t (.entry (.expected ["literal"] t.isNone))
  | truth {n : Name} (hn : n.IsTruth) : StopsConstant [] (some (.name n)) .notExponent
  | literal {l : Literal} {err : MarkerError} (hl : l.value.Refused err) :
    StopsConstant [] (some (.literal l)) err
  | minus {joint : Bool} {t : Option Token} (ht : ∀ l, t ≠ some (.literal l)) :
    StopsConstant [.mark '-' joint] t (.entry (.expected ["literal"] false))
  | negated {joint : Bool} {l : Literal} {err : MarkerError} (hl : l.value.RefusedNegated err) :
    StopsConstant [.mark '-' joint] (some (.literal l)) err

/-- No constant is read, or one without a fraction. -/
def RefusesConstant (tokens : List Token) (err : MarkerError) : Prop :=
  (∃ c, takeConstant tokens = .error c ∧ err = .entry c) ∨
    ∃ c rest, takeConstant tokens = .ok (c, rest) ∧ c.fraction = .error err

theorem fraction_integer_eq_error {n : Int} : (Constant.integer n).fraction = .error err ↔
    n < -2 ^ 31 ∧ err = .tooSmall ∨ 2 ^ 31 ≤ n ∧ err = .tooLarge := by
  rw [Constant.fraction]
  split_ifs with hlow hhigh
  · have hhigh : ¬ 2 ^ 31 ≤ n := by omega
    simp only [hlow, hhigh, Except.error.injEq, true_and, false_and, or_false, eq_comm]
  · simp only [hlow, hhigh, Except.error.injEq, true_and, false_and, false_or, eq_comm]
  · simp only [hlow, hhigh, false_and, or_false]

theorem fraction_ofLiteral_eq_error {l : Literal} :
    (Constant.ofLiteral l).fraction = .error err ↔ l.value.Refused err := by
  unfold Constant.ofLiteral
  cases l.value with
  | integer k suffixed =>
    dsimp only
    rw [fraction_integer_eq_error]
    constructor
    · rintro (⟨hk, -⟩ | ⟨hk, rfl⟩)
      · omega
      · exact .tooLarge (by omega)
    · rintro ⟨hk⟩
      exact .inr ⟨by omega, rfl⟩
  | string text =>
    dsimp only [Constant.fraction]
    rw [fraction_eq_error]
    constructor
    · rintro (⟨rfl, h⟩ | ⟨rfl, n, h, hn⟩)
      · exact .notFraction h
      · exact .zeroDenominator h hn
    · rintro (_ | h | ⟨h, hn⟩)
      · exact .inl ⟨rfl, h⟩
      · exact .inr ⟨rfl, _, h, hn⟩
  | float =>
    constructor
    · rintro ⟨⟩
      exact .float
    · rintro ⟨⟩
      rfl
  | other =>
    constructor
    · rintro ⟨⟩
      exact .other
    · rintro ⟨⟩
      rfl

theorem refusesConstant_of_none (h : skipConstant? tokens = none) :
    RefusesConstant tokens err ↔ err = .entry (notFound ["literal"] tokens) := by
  have htake : takeConstant tokens = .error (notFound ["literal"] tokens) := by
    unfold takeConstant
    rw [h]
  simp [RefusesConstant, htake]

theorem refusesConstant_of_some {c : Constant} (h : skipConstant? tokens = some (c, rest)) :
    RefusesConstant tokens err ↔ c.fraction = .error err := by
  have htake := takeConstant_eq_ok.mpr h
  simp [RefusesConstant, htake]

theorem refusesConstant_missing (h : ¬ StartsConstant tokens.head?) :
    RefusesConstant tokens err ↔ err = .entry (.expected ["literal"] tokens.head?.isNone) := by
  rw [← notFound_eq]
  apply refusesConstant_of_none
  unfold skipConstant?
  split
  · exact absurd .literal h
  · exact if_neg fun hn => h (.truth hn)
  · exact absurd .minus h
  · rfl

theorem refusesConstant_truth {n : Name} (hn : n.IsTruth) :
    RefusesConstant (.name n :: rest) err ↔ err = .notExponent := by
  have hskip : skipConstant? (.name n :: rest) = some (.other, rest) := if_pos hn
  rw [refusesConstant_of_some hskip, Constant.fraction, Except.error.injEq, eq_comm]

theorem refusesConstant_literal {l : Literal} :
    RefusesConstant (.literal l :: rest) err ↔ l.value.Refused err := by
  rw [refusesConstant_of_some rfl, fraction_ofLiteral_eq_error]

theorem refusesConstant_minus {joint : Bool} (ht : ∀ l, rest.head? ≠ some (.literal l)) :
    RefusesConstant (.mark '-' joint :: rest) err ↔ err = .entry (.expected ["literal"] false) := by
  apply refusesConstant_of_none
  unfold skipConstant?
  split
  next heq => cases heq
  next heq => cases heq
  next heq =>
    cases heq
    exact absurd rfl (ht _)
  next => rfl

theorem refusesConstant_negated {joint : Bool} {l : Literal} :
    RefusesConstant (.mark '-' joint :: .literal l :: rest) err ↔ l.value.RefusedNegated err := by
  have hskip : skipConstant? (.mark '-' joint :: .literal l :: rest) =
      (Constant.ofNegated? l).map (·, rest) := rfl
  unfold Constant.ofNegated? at hskip
  cases hl : l.value with
  | integer k suffixed =>
    rw [hl] at hskip
    rw [refusesConstant_of_some hskip, fraction_integer_eq_error]
    constructor
    · rintro (⟨hk, rfl⟩ | ⟨hk, -⟩)
      · exact .tooSmall (by omega)
      · omega
    · rintro ⟨hk⟩
      exact .inl ⟨by omega, rfl⟩
  | string text =>
    rw [hl] at hskip
    rw [refusesConstant_of_none hskip]
    constructor
    · rintro rfl
      exact .string
    · rintro ⟨⟩
      rfl
  | float =>
    rw [hl] at hskip
    rw [refusesConstant_of_some hskip]
    constructor
    · rintro ⟨⟩
      exact .float
    · rintro ⟨⟩
      rfl
  | other =>
    rw [hl] at hskip
    rw [refusesConstant_of_none hskip]
    constructor
    · rintro rfl
      exact .other
    · rintro ⟨⟩
      rfl

theorem exists_stopsConstant (h : RefusesConstant tokens err) :
    ∃ front rest, tokens = front ++ rest ∧ StopsConstant front rest.head? err := by
  by_cases hstart : StartsConstant tokens.head?
  · generalize ht : tokens.head? = t at hstart
    cases hstart with
    | literal =>
      obtain ⟨rest, rfl⟩ := List.head?_eq_some_iff.mp ht
      exact ⟨[], _, rfl, .literal (refusesConstant_literal.mp h)⟩
    | truth hn =>
      obtain ⟨rest, rfl⟩ := List.head?_eq_some_iff.mp ht
      cases (refusesConstant_truth hn).mp h
      exact ⟨[], _, rfl, .truth hn⟩
    | minus =>
      obtain ⟨rest, rfl⟩ := List.head?_eq_some_iff.mp ht
      refine ⟨[_], rest, rfl, ?_⟩
      by_cases hl : ∃ l, rest.head? = some (.literal l)
      · obtain ⟨l, hl⟩ := hl
        obtain ⟨rest, rfl⟩ := List.head?_eq_some_iff.mp hl
        exact .negated (refusesConstant_negated.mp h)
      · cases (refusesConstant_minus (not_exists.mp hl)).mp h
        exact .minus (not_exists.mp hl)
  · cases (refusesConstant_missing hstart).mp h
    exact ⟨[], tokens, rfl, .missing hstart⟩

theorem refusesConstant_of_stops {front : List Token} (h : StopsConstant front rest.head? err) :
    RefusesConstant (front ++ rest) err := by
  generalize ht : rest.head? = t at h
  cases h with
  | missing hstart =>
    subst ht
    exact (refusesConstant_missing hstart).mpr rfl
  | truth hn =>
    obtain ⟨rest, rfl⟩ := List.head?_eq_some_iff.mp ht
    exact (refusesConstant_truth hn).mpr rfl
  | literal hl =>
    obtain ⟨rest, rfl⟩ := List.head?_eq_some_iff.mp ht
    exact refusesConstant_literal.mpr hl
  | minus hnone =>
    subst ht
    exact (refusesConstant_minus hnone).mpr rfl
  | negated hl =>
    obtain ⟨rest, rfl⟩ := List.head?_eq_some_iff.mp ht
    exact refusesConstant_negated.mpr hl

/-! ## Exponents -/

/-- There is no exponent because of the token that stands behind `front`. -/
inductive StopsExponent : List Token → Option Token → MarkerError → Prop where
  | plain {t : Option Token} {err : MarkerError} (h : StopsConstant [] t err) : StopsExponent [] t err
  | signed {joint : Bool} {front : List Token} {t : Option Token} {err : MarkerError}
      (h : StopsConstant front t err) : StopsExponent (.mark '-' joint :: front) t err
  | overflow {v : WrittenValue} (h : v.Overflows) :
    StopsExponent (v.minuses.map (.mark '-')) (some (.literal v.literal)) (.fault .negationOverflow)

theorem takeExponent_eq_error_cases : takeExponent tokens = .error err ↔
    RefusesConstant (skipMinus tokens).2 err ∨
      ∃ f, err = .fault f ∧ takeExponent tokens = .error (.fault f) := by
  constructor
  · intro h
    have hcases := h
    simp only [takeExponent, bind_eq_error, mapError_eq_ok, mapError_eq_error] at hcases
    obtain ⟨c, hc, rfl⟩ | ⟨⟨c, after⟩, hc, hf | ⟨_, -, ⟨f, -, rfl⟩ | ⟨_, -, h'⟩⟩⟩ := hcases
    · exact .inl (.inl ⟨c, hc, rfl⟩)
    · exact .inl (.inr ⟨c, after, hc, hf⟩)
    · exact .inr ⟨f, rfl, h⟩
    · contradiction
  · rintro ((⟨c, hc, rfl⟩ | ⟨c, after, hc, hf⟩) | ⟨f, rfl, h⟩)
    · simp only [takeExponent, bind_eq_error, mapError_eq_error]
      exact .inl ⟨c, hc, rfl⟩
    · simp only [takeExponent, bind_eq_error, mapError_eq_ok]
      exact .inr ⟨(c, after), hc, .inl hf⟩
    · exact h

theorem exists_stopsExponent (h : takeExponent tokens = .error err) :
    ∃ front rest, tokens = front ++ rest ∧ StopsExponent front rest.head? err := by
  obtain h | ⟨f, rfl, h⟩ := takeExponent_eq_error_cases.mp h
  · obtain ⟨front, rest, hsplit, hstops⟩ := exists_stopsConstant h
    obtain ⟨joint, htokens, -⟩ | ⟨hskip, hnot⟩ := skipMinus_cases tokens
    · exact ⟨.mark '-' joint :: front, rest, by rw [htokens, hsplit]; rfl, .signed hstops⟩
    · rw [hskip] at hsplit
      cases front with
      | nil => exact ⟨[], rest, hsplit, .plain hstops⟩
      | cons t front =>
        -- the minus of a constant would have been taken before
        generalize rest.head? = u at hstops
        cases hstops <;> exact absurd hsplit (hnot _ _)
  · obtain ⟨rfl, v, rest, rfl, hv⟩ := exists_overflows_of_takeExponent h
    exact ⟨_, .literal v.literal :: rest, by simp [WrittenValue.tokens], .overflow hv⟩

theorem takeExponent_of_stops {front : List Token} (h : StopsExponent front rest.head? err) :
    takeExponent (front ++ rest) = .error err := by
  generalize ht : rest.head? = t at h
  cases h with
  | plain hstops =>
    subst ht
    obtain ⟨joint, hrest, -⟩ | ⟨hskip, -⟩ := skipMinus_cases rest
    · rw [hrest] at hstops
      obtain ⟨hstart⟩ := hstops
      exact absurd .minus hstart
    · rw [List.nil_append, takeExponent_eq_error_cases, hskip]
      exact .inl (refusesConstant_of_stops hstops)
  | signed hstops =>
    subst ht
    exact takeExponent_eq_error_cases.mpr (.inl (refusesConstant_of_stops hstops))
  | @overflow v hv =>
    obtain ⟨rest, rfl⟩ := List.head?_eq_some_iff.mp ht
    have hfault := takeExponent_of_overflows hv rest
    rwa [WrittenValue.tokens, List.append_assoc] at hfault

/-! ## Entries -/

/-- There is no value for the key because of the token that stands behind `front`. -/
inductive StopsValue : Key → List Token → Option Token → MarkerError → Prop where
  | exponent {b : BaseDimension} {front : List Token} {t : Option Token} {err : MarkerError}
      (h : StopsExponent front t err) : StopsValue (.slot b) front t err
  | symbol {t : Option Token} (ht : ∀ l text, t = some (.literal l) → l.value ≠ .string text) :
    StopsValue .symbol [] t (.entry (.expected ["string literal"] t.isNone))

/-- The entry cannot be completed because of the token that stands behind `front`. -/
inductive StopsEntry : List Token → Option Token → MarkerError → Prop where
  | key {front : List Token} {t : Option Token} {err : MarkerError} (h : StopsKey front t err) :
    StopsEntry front t err
  | value {key : Key} {joint : Bool} {front : List Token} {t : Option Token} {err : MarkerError}
      (h : StopsValue key front t err) :
    StopsEntry (.word key.word :: .mark '=' joint :: front) t err

theorem takeString_eq_error {c : Complaint} : takeString tokens = .error c ↔
    c = .expected ["string literal"] tokens.head?.isNone ∧
      ∀ l text, tokens.head? = some (.literal l) → l.value ≠ .string text := by
  rw [← notFound_eq]
  cases h : takeString tokens with
  | ok found =>
    obtain ⟨htokens, text, hl⟩ := takeString_eq_ok.mp h
    simp only [reduceCtorEq, false_iff, not_and, not_forall, not_not]
    exact fun _ => ⟨_, text, by rw [htokens]; rfl, hl⟩
  | error c' =>
    have hnone : ∀ l text, tokens.head? = some (.literal l) → l.value ≠ .string text := by
      intro l text hl hvalue
      obtain ⟨rest, rfl⟩ := List.head?_eq_some_iff.mp hl
      rw [takeString_eq_ok.mpr ⟨rfl, text, hvalue⟩] at h
      contradiction
    unfold takeString at h
    split at h
    · contradiction
    · cases h
      simp only [Except.error.injEq, eq_comm, and_iff_left hnone]

theorem takeValue_eq_error {key : Key} : takeValue tokens key = .error err ↔
    ∃ front rest, tokens = front ++ rest ∧ StopsValue key front rest.head? err := by
  cases key with
  | slot b =>
    rw [takeValue, map_eq_error]
    constructor
    · intro h
      obtain ⟨front, rest, rfl, hstops⟩ := exists_stopsExponent h
      exact ⟨front, rest, rfl, .exponent hstops⟩
    · rintro ⟨front, rest, rfl, ⟨hstops⟩⟩
      exact takeExponent_of_stops hstops
  | symbol =>
    simp only [takeValue, mapError_eq_error, map_eq_error, takeString_eq_error]
    constructor
    · rintro ⟨_, ⟨rfl, hnone⟩, rfl⟩
      exact ⟨[], tokens, rfl, .symbol hnone⟩
    · rintro ⟨front, rest, rfl, h⟩
      generalize ht : rest.head? = t at h
      obtain _ | hnone := h
      subst ht
      exact ⟨_, ⟨rfl, hnone⟩, rfl⟩

theorem takeEntry_eq_error : takeEntry tokens = .error err ↔
    ∃ front rest, tokens = front ++ rest ∧ StopsEntry front rest.head? err := by
  constructor
  · intro h
    obtain ⟨key, equals, after, rfl⟩ | ⟨front, rest, err', rfl, hstops⟩ := takeEntry_cases tokens
    · rw [takeEntry_word] at h
      obtain ⟨front, rest, rfl, hstops⟩ := takeValue_eq_error.mp h
      exact ⟨_, rest, rfl, .value hstops⟩
    · rw [takeEntry_of_stopsKey hstops] at h
      cases h
      exact ⟨front, rest, rfl, .key hstops⟩
  · rintro ⟨front, rest, rfl, hstops | hstops⟩
    · exact takeEntry_of_stopsKey hstops
    · exact (takeEntry_word _ _ _).trans (takeValue_eq_error.mpr ⟨_, rest, rfl, hstops⟩)

theorem StopsEntry.unique {front : List Token} {t : Option Token} {err err' : MarkerError}
    (h : StopsEntry front t err) (h' : StopsEntry front t err') : err = err' := by
  obtain ⟨rest, rfl⟩ : ∃ rest : List Token, rest.head? = t := ⟨t.toList, by cases t <;> rfl⟩
  have hread := takeEntry_eq_error.mpr ⟨front, rest, rfl, h⟩
  rw [takeEntry_eq_error.mpr ⟨front, rest, rfl, h'⟩] at hread
  exact (Except.error.inj hread).symm

/-! ## Whole attributes -/

/-- Behind entries that mean something stands one that cannot be completed. A comma belongs to the entry
before it. -/
def StopsIn (tokens : List Token) (err : MarkerError) : Prop :=
  ∃ (ws : List (WrittenEntry × Option Bool)) (front rest : List Token),
    tokens = writeAll ws ++ (front ++ rest) ∧ front ++ rest ≠ [] ∧ (∀ w ∈ ws, ∃ e, w.1.Means e) ∧
      TakesComma ws (front ++ rest) ∧ StopsEntry front rest.head? err

theorem takeEntries_eq_error : takeEntries tokens = .error err ↔ StopsIn tokens err := by
  constructor
  · intro h
    obtain ⟨ws, rest, rfl, hws, htakes, hne, hentry⟩ := exists_of_takeEntries_eq_error h
    obtain ⟨front, rest, rfl, hstops⟩ := takeEntry_eq_error.mp hentry
    exact ⟨ws, front, rest, rfl, hne, hws, htakes, hstops⟩
  · rintro ⟨ws, front, rest, rfl, hne, hws, htakes, hstops⟩
    obtain ⟨es, hes⟩ := Annotation.exists_forall₂_means hws
    have hentry := takeEntry_eq_error.mpr ⟨front, rest, rfl, hstops⟩
    rw [takeEntries_append hes htakes, takeEntries_of_error hne hentry]
    rfl

theorem three_mul_length_le (ws : List (WrittenEntry × Option Bool)) :
    3 * ws.length ≤ (writeAll ws).length := by
  induction ws with
  | nil => exact Nat.zero_le _
  | cons w ws ih =>
    have hw : 3 ≤ w.1.tokens.length := by simp [WrittenEntry.tokens, WrittenValue.tokens]
    simp only [writeAll, List.length_cons, List.length_append]
    omega

namespace Annotation

/-- The tokens of an attribute are accepted exactly if they can be cut into entries that all mean something,
with at most one comma behind each, and there is one such cut at most. Else the first entry that cannot be
completed decides the error, by the token that shows it and what stands before this in the entry. Every
entry that is read takes three tokens or more. -/
theorem ofTokens_outcome (tokens : List Token) :
    ((∃ a, ofTokens tokens = .ok a) ↔ ∃ ws, tokens = writeAll ws ∧ ∀ w ∈ ws, ∃ e, w.1.Means e) ∧
    (∀ ws ws', tokens = writeAll ws → tokens = writeAll ws' → ws = ws') ∧
    (∀ err, ofTokens tokens = .error err ↔ StopsIn tokens err) ∧
    (∀ front t err err', StopsEntry front t err → StopsEntry front t err' → err = err') ∧
    ∀ ws rest, tokens = writeAll ws ++ rest → 3 * ws.length ≤ tokens.length := by
  refine ⟨⟨?_, ?_⟩, ?_, fun err => ?_, fun front t err err' => StopsEntry.unique, ?_⟩
  · rintro ⟨a, ha⟩
    obtain ⟨ws, htokens, hmeans, -⟩ := ofTokens_eq_ok.mp ha
    exact ⟨ws, htokens, hmeans⟩
  · rintro ⟨ws, htokens, hmeans⟩
    obtain ⟨es, hes⟩ := exists_forall₂_means hmeans
    exact ⟨_, ofTokens_eq_ok.mpr ⟨ws, htokens, hmeans, says_ofEntries hes⟩⟩
  · rintro ws ws' rfl h
    exact writeAll_injective h
  · rw [ofTokens, map_eq_error, takeEntries_eq_error]
  · rintro ws rest rfl
    have := three_mul_length_le ws
    rw [List.length_append]
    omega

theorem ofTokens_outcome_unknown :
    let two : Literal := ⟨"2", .integer 2 false⟩
    let charge : Name := { text := "charge" }
    let good : List Token := [.word "length", .mark '=' false, .literal two, .mark ',' false]
    let unknown : List Token := [.name charge, .mark '=' false]
    (∃ a, ofTokens good = .ok a) ∧ ofTokens (good ++ unknown) = .error (.unknownKey charge) ∧
      ofTokens (good ++ .mark ',' false :: unknown) = .error (.entry (.expected ["identifier"] false)) := by
  intro two charge good unknown
  let w : WrittenEntry := ⟨.slot .length, false, [], two⟩
  have hw : w.Means (.exponent .length (.whole 2)) :=
    .exponent rfl ⟨2, 1, .integer rfl, by decide, by decide, by decide, by simp [w], by decide, by decide⟩
  have hmeans : ∀ u ∈ [(w, some false)], ∃ e, u.1.Means e := List.forall_mem_singleton.mpr ⟨_, hw⟩
  have htakes : ∀ rest, TakesComma [(w, some false)] rest := by
    intro rest u hu hnone
    cases hu
    contradiction
  have hkey : ∀ k : Key, charge ≠ { text := k.word } := by
    rintro (b | _)
    · cases b <;> decide
    · decide
  refine ⟨(ofTokens_outcome good).1.mpr ⟨[(w, some false)], rfl, hmeans⟩, ?_, ?_⟩
  · exact ((ofTokens_outcome _).2.2.1 _).mpr ⟨[(w, some false)], [.name charge], [.mark '=' false], rfl,
      by simp, hmeans, htakes _, .key (.unknownKey rfl hkey)⟩
  · exact ((ofTokens_outcome _).2.2.1 _).mpr ⟨[(w, some false)], [], .mark ',' false :: unknown, rfl,
      by simp, hmeans, htakes _, .key (.noName nofun)⟩

end Annotation

end Dimensional.Marker
