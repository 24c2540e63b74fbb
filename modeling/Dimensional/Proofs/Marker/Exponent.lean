import Dimensional.Proofs.Exponent.Value
import Dimensional.Proofs.Marker.Fraction

/-!
# Written exponents

An exponent is read from exactly the tokens of a written value that means one, and it is the exponent that
the value means.
-/

namespace Dimensional.Marker

open Outcome

/-! ## Written values -/

/-- The fraction that a literal writes, with the signs of its two numbers. -/
inductive Literal.Writes (l : Literal) : Int → Int → Prop where
  | integer {n : Nat} {suffixed : Bool} (h : l.value = .integer n suffixed) : l.Writes n 1
  | string {text : List Char} {n d : Int} (h : l.value = .string text) (hf : SpellsFraction text n d) :
    l.Writes n d

/-- How many minuses may stand before a literal: one, and before a number one that is part of it. -/
def Literal.maxMinuses (l : Literal) : Nat :=
  match l.value with
  | .integer .. => 2
  | _ => 1

/-- The value of an entry as written: minuses, of each whether another mark follows at once, and a
literal. -/
structure WrittenValue where
  minuses : List Bool
  literal : Literal

namespace WrittenValue

def tokens (v : WrittenValue) : List Token :=
  v.minuses.map (.mark '-') ++ [.literal v.literal]

/-- The exponent that a value with the fraction `n / d` stands for. Each minus and the sign of the
denominator turn the sign of the numerator, as far as it can be turned, and nothing is reduced. -/
structure StandsFor (v : WrittenValue) (n d : Int) (e : Exponent) : Prop where
  writes : v.literal.Writes n d
  stored : IsStored n
  den_ne_zero : d ≠ 0
  minuses : v.minuses.length ≤ v.literal.maxMinuses
  turned : v.minuses ≠ [] → n ≠ -2 ^ 31
  num : e.num = (-1) ^ v.minuses.length * (d.sign * n)
  den : e.den = |d|

/-- The exponent that a value means. -/
def Means (v : WrittenValue) (e : Exponent) : Prop :=
  ∃ n d, v.StandsFor n d e

end WrittenValue

theorem WrittenValue.StandsFor.value {v : WrittenValue} {n d : Int} {e : Exponent}
    (h : v.StandsFor n d e) : e.value = (-1) ^ v.minuses.length * ((n : ℚ) / d) := by
  have hsign : (d.sign : ℚ) ≠ 0 := by exact_mod_cast Int.sign_eq_zero_iff_zero.not.mpr h.den_ne_zero
  have habs : ((|d| : ℤ) : ℚ) = d.sign * d := by exact_mod_cast (Int.sign_mul_self_eq_abs d).symm
  rw [Exponent.value_eq_div h.num h.den, habs, Int.cast_mul, Int.cast_mul, mul_div_assoc,
    mul_div_mul_left _ _ hsign]
  push_cast
  rfl

theorem WrittenValue.StandsFor.abs_num {v : WrittenValue} {n d : Int} {e : Exponent}
    (h : v.StandsFor n d e) : |e.num| = |n| := by
  rw [h.num, abs_mul, abs_pow, abs_neg, abs_one, one_pow, one_mul, abs_mul,
    Int.abs_sign_of_ne_zero h.den_ne_zero, one_mul]

/-! ## Constants -/

theorem fraction_integer {k : Int} {q : Fraction} :
    (Constant.integer k).fraction = .ok q ↔ q.num = k ∧ q.den = 1 := by
  have hstored := q.num_stored
  rw [Constant.fraction]
  split
  · simp only [reduceCtorEq, false_iff]
    unfold IsStored at hstored
    omega
  · split
    · simp only [reduceCtorEq, false_iff]
      unfold IsStored at hstored
      omega
    · rw [Except.ok.injEq, Fraction.ext_iff, eq_comm, eq_comm (a := (1 : Int))]

theorem Literal.Writes.cases {l : Literal} {n d : Int} (h : l.Writes n d) :
    (∃ k suffixed, l.value = .integer k suffixed ∧ n = k ∧ d = 1) ∨
      ∃ text, l.value = .string text ∧ SpellsFraction text n d := by
  cases h with
  | integer h => exact .inl ⟨_, _, h, rfl, rfl⟩
  | string h hf => exact .inr ⟨_, h, hf⟩

theorem writes_iff_of_integer {l : Literal} {k : Nat} {suffixed : Bool} {n d : Int}
    (h : l.value = .integer k suffixed) : l.Writes n d ↔ n = k ∧ d = 1 := by
  constructor
  · intro hw
    obtain ⟨k', suffixed', h', hn, hd⟩ | ⟨text, h', -⟩ := hw.cases
    · rw [h, Value.integer.injEq] at h'
      exact ⟨by rw [hn, h'.1], hd⟩
    · rw [h] at h'
      contradiction
  · rintro ⟨rfl, rfl⟩
    exact .integer h

theorem writes_iff_of_string {l : Literal} {text : List Char} {n d : Int}
    (h : l.value = .string text) : l.Writes n d ↔ SpellsFraction text n d := by
  constructor
  · intro hw
    obtain ⟨k, suffixed, h', -⟩ | ⟨text', h', hf⟩ := hw.cases
    · rw [h] at h'
      contradiction
    · rw [h, Value.string.injEq] at h'
      rwa [h']
  · exact .string h

theorem Literal.Writes.unique {l : Literal} {n d n' d' : Int} (h : l.Writes n d)
    (h' : l.Writes n' d') : n = n' ∧ d = d' := by
  cases h with
  | integer hl =>
    obtain ⟨rfl, rfl⟩ := (writes_iff_of_integer hl).mp h'
    exact ⟨rfl, rfl⟩
  | string hl hf => exact hf.unique ((writes_iff_of_string hl).mp h')

theorem fraction_ofLiteral {l : Literal} {q : Fraction} :
    (Constant.ofLiteral l).fraction = .ok q ↔ l.Writes q.num q.den := by
  unfold Constant.ofLiteral
  split
  case h_1 k suffixed h => rw [fraction_integer, writes_iff_of_integer h]
  case h_2 text h =>
    rw [writes_iff_of_string h]
    exact fraction_eq_ok
  all_goals
    next h =>
    simp only [Constant.fraction, reduceCtorEq, false_iff]
    intro hw
    obtain ⟨k, suffixed, h', -⟩ | ⟨text, h', -⟩ := hw.cases <;> rw [h] at h' <;> contradiction

theorem ofNegated?_eq_some {l : Literal} {c : Constant} :
    Constant.ofNegated? l = some c ↔
      (∃ k suffixed, l.value = .integer k suffixed ∧ c = .integer (-k)) ∨
        l.value = .float ∧ c = .other := by
  unfold Constant.ofNegated?
  cases l.value <;> simp [eq_comm (a := c)]

theorem skipConstant?_eq_some {tokens rest : List Token} {c : Constant} :
    skipConstant? tokens = some (c, rest) ↔
      (∃ l, tokens = .literal l :: rest ∧ c = .ofLiteral l) ∨
      (∃ joint l, tokens = .mark '-' joint :: .literal l :: rest ∧ Constant.ofNegated? l = some c) ∨
      ∃ n, tokens = .name n :: rest ∧ n ∈ [{ text := "true" }, { text := "false" }] ∧ c = .other := by
  constructor
  · intro h
    unfold skipConstant? at h
    split at h
    case h_1 l rest' =>
      cases h
      exact .inl ⟨l, rfl, rfl⟩
    case h_2 n rest' =>
      split at h
      next hn =>
        cases h
        exact .inr (.inr ⟨n, rfl, hn, rfl⟩)
      next => contradiction
    case h_3 joint l rest' =>
      obtain ⟨c', hc, heq⟩ := Option.map_eq_some_iff.mp h
      cases heq
      exact .inr (.inl ⟨joint, l, rfl, hc⟩)
    case h_4 => contradiction
  · rintro (⟨l, rfl, rfl⟩ | ⟨joint, l, rfl, hc⟩ | ⟨n, rfl, hn, rfl⟩)
    · rfl
    · rw [skipConstant?, hc, Option.map_some]
    · rw [skipConstant?, if_pos hn]

theorem takeConstant_eq_ok {tokens rest : List Token} {c : Constant} :
    takeConstant tokens = .ok (c, rest) ↔ skipConstant? tokens = some (c, rest) := by
  unfold takeConstant
  split <;> simp_all

theorem takeConstant_fraction {tokens rest : List Token} {q : Fraction} :
    (∃ c, takeConstant tokens = .ok (c, rest) ∧ c.fraction = .ok q) ↔
      (∃ l, tokens = .literal l :: rest ∧ l.Writes q.num q.den) ∨
      ∃ joint l k suffixed, tokens = .mark '-' joint :: .literal l :: rest ∧
        l.value = .integer k suffixed ∧ q.num = -k ∧ q.den = 1 := by
  simp only [takeConstant_eq_ok, skipConstant?_eq_some, ofNegated?_eq_some]
  constructor
  · rintro ⟨c, ⟨l, rfl, rfl⟩ | ⟨joint, l, rfl, ⟨k, suffixed, hk, rfl⟩ | ⟨-, rfl⟩⟩ | ⟨name, -, -, rfl⟩, hf⟩
    · exact .inl ⟨l, rfl, fraction_ofLiteral.mp hf⟩
    · exact .inr ⟨joint, l, k, suffixed, rfl, hk, fraction_integer.mp hf⟩
    · contradiction
    · contradiction
  · rintro (⟨l, rfl, h⟩ | ⟨joint, l, k, suffixed, rfl, hk, hq⟩)
    · exact ⟨.ofLiteral l, .inl ⟨l, rfl, rfl⟩, fraction_ofLiteral.mpr h⟩
    · exact ⟨.integer (-k), .inr (.inl ⟨joint, l, rfl, .inl ⟨k, suffixed, hk, rfl⟩⟩), fraction_integer.mpr hq⟩

/-! ## Minuses -/

variable {negative : Bool} {q : Fraction} {e : Exponent} {f : Fault}

/-- The settled numbers are stored as they are. -/
theorem signedExponent_eq_ok_iff :
    signedExponent negative q = .ok e ↔ q.settle negative = .ok (e.num, e.den) := by
  unfold signedExponent
  split
  next f h => simp [h]
  next n d h =>
    constructor
    · intro he
      cases he
      exact h
    · intro hsettle
      rw [h] at hsettle
      cases hsettle
      rfl

theorem signedExponent_eq_error_iff : signedExponent negative q = .error f ↔ q.settle negative = .error f := by
  unfold signedExponent
  split
  next f h => rw [h, Except.error.injEq, Except.error.injEq]
  next n d h => simp [h]

theorem settleSigns_eq_ok {n d : Int} (hd : d ≠ 0) :
    settleSigns n d = .ok (e.num, e.den) ↔ e.num = d.sign * n ∧ e.den = |d| := by
  have hlt := e.num_lt
  have hden := e.den_lt
  unfold settleSigns
  split_ifs with hneg
  · simp only [bind_eq_ok, Exponent.negate_eq_ok, Int.sign_eq_neg_one_of_neg hneg, abs_of_neg hneg, neg_one_mul]
    constructor
    · rintro ⟨_, ⟨-, rfl⟩, _, ⟨-, rfl⟩, h⟩
      obtain ⟨hn, hd⟩ := Prod.mk.inj (Except.ok.inj h)
      exact ⟨hn.symm, hd.symm⟩
    · -- the least numbers have no negative that an exponent could store
      rintro ⟨hn, hd⟩
      refine ⟨-n, ⟨by omega, rfl⟩, -d, ⟨by omega, rfl⟩, ?_⟩
      rw [hn, hd]
      rfl
  · have hpos : 0 < d := by omega
    rw [Int.sign_eq_one_of_pos hpos, abs_of_pos hpos, one_mul, Except.ok.injEq, Prod.mk.injEq,
      eq_comm (a := n), eq_comm (a := d)]

theorem signedExponent_eq_ok : signedExponent negative q = .ok e ↔
    (negative = true → q.num ≠ -2 ^ 31) ∧
      e.num = q.den.sign * (if negative then -q.num else q.num) ∧ e.den = |q.den| := by
  rw [signedExponent_eq_ok_iff]
  cases negative with
  | false => simp [settleSigns_eq_ok q.den_ne_zero]
  | true =>
    simp only [Fraction.settle_true, bind_eq_ok, Exponent.negate_eq_ok, settleSigns_eq_ok q.den_ne_zero, if_true,
      forall_const]
    constructor
    · rintro ⟨_, ⟨hmin, rfl⟩, h⟩
      exact ⟨hmin, h⟩
    · rintro ⟨hmin, h⟩
      exact ⟨_, ⟨hmin, rfl⟩, h⟩

theorem one_le_maxMinuses (l : Literal) : 1 ≤ l.maxMinuses := by
  unfold Literal.maxMinuses
  split <;> decide

theorem maxMinuses_of_integer {l : Literal} {k : Nat} {suffixed : Bool}
    (h : l.value = .integer k suffixed) : l.maxMinuses = 2 := by
  rw [Literal.maxMinuses, h]

theorem maxMinuses_cases (l : Literal) :
    l.maxMinuses = 1 ∨ l.maxMinuses = 2 ∧ ∃ k suffixed, l.value = .integer k suffixed := by
  unfold Literal.maxMinuses
  split
  case h_1 k suffixed h => exact .inr ⟨rfl, k, suffixed, h⟩
  case h_2 => exact .inl rfl

theorem skipMinus_cases (tokens : List Token) :
    (∃ joint, tokens = .mark '-' joint :: (skipMinus tokens).2 ∧ (skipMinus tokens).1 = true) ∨
      (skipMinus tokens = (false, tokens) ∧ ∀ joint rest, tokens ≠ .mark '-' joint :: rest) := by
  unfold skipMinus
  split
  case h_1 joint rest => exact .inl ⟨joint, rfl, rfl⟩
  case h_2 h => exact .inr ⟨rfl, h⟩

/-! ## Exponents -/

theorem takeExponent_eq_ok_iff_fraction {tokens rest : List Token} :
    takeExponent tokens = .ok (e, rest) ↔ ∃ q : Fraction,
      (∃ c, takeConstant (skipMinus tokens).2 = .ok (c, rest) ∧ c.fraction = .ok q) ∧
        signedExponent (skipMinus tokens).1 q = .ok e := by
  simp only [takeExponent, bind_eq_ok, mapError_eq_ok]
  constructor
  · rintro ⟨⟨c, after⟩, hc, q, hf, e', he, h⟩
    cases h
    exact ⟨q, ⟨c, hc, hf⟩, he⟩
  · rintro ⟨q, ⟨c, hc, hf⟩, he⟩
    exact ⟨(c, rest), hc, q, hf, e, he, rfl⟩

theorem takeExponent_tokens {v : WrittenValue} (h : v.Means e) (rest : List Token) :
    takeExponent (v.tokens ++ rest) = .ok (e, rest) := by
  obtain ⟨minuses, l⟩ := v
  obtain ⟨n, d, writes, stored, hd, hlength, turned, num, den⟩ := h
  have hdstored : IsStored d := by
    have := e.den_lt
    have := abs_le.mp den.ge
    unfold IsStored
    omega
  rw [takeExponent_eq_ok_iff_fraction]
  simp only [takeConstant_fraction, signedExponent_eq_ok]
  match minuses with
  | [] =>
    refine ⟨⟨n, d, stored, hdstored, hd⟩, .inl ⟨l, rfl, writes⟩, nofun, ?_, den⟩
    simp [num, skipMinus, WrittenValue.tokens]
  | [joint] =>
    refine ⟨⟨n, d, stored, hdstored, hd⟩, .inl ⟨l, rfl, writes⟩, fun _ => turned (by simp), ?_, den⟩
    simp [num, skipMinus, WrittenValue.tokens]
  | [joint, joint'] =>
    -- the second minus is part of the number, whose negative is stored as well
    obtain hone | ⟨-, k, suffixed, hk⟩ := maxMinuses_cases l
    · simp [hone] at hlength
    · obtain ⟨rfl, rfl⟩ := (writes_iff_of_integer hk).mp writes
      have hlt := stored.2
      have hstored : IsStored (-k : Int) := ⟨by omega, by omega⟩
      refine ⟨⟨-k, 1, hstored, hdstored, hd⟩, .inr ⟨joint', l, k, suffixed, rfl, hk, rfl, rfl⟩, ?_, ?_, den⟩
      · intro _
        change -(k : Int) ≠ _
        omega
      · simp [num, skipMinus, WrittenValue.tokens]
  | _ :: _ :: _ :: _ =>
    obtain h | ⟨h, -⟩ := maxMinuses_cases l <;> simp [h] at hlength

/-- What is read as an exponent is a written value that means it. -/
theorem exists_tokens_of_takeExponent {tokens rest : List Token}
    (h : takeExponent tokens = .ok (e, rest)) :
    ∃ v : WrittenValue, tokens = v.tokens ++ rest ∧ v.Means e := by
  rw [takeExponent_eq_ok_iff_fraction] at h
  obtain ⟨⟨n, d, hstored, _, hd⟩, hf, hsigned⟩ := h
  rw [takeConstant_fraction] at hf
  rw [signedExponent_eq_ok] at hsigned
  dsimp only at hf hsigned
  obtain ⟨hturned, hnum, hden⟩ := hsigned
  obtain ⟨joint, htokens, hminus⟩ | ⟨hskip, hnot⟩ := skipMinus_cases tokens
  · rw [hminus] at hturned hnum
    simp only [forall_const, if_true] at hturned hnum
    obtain ⟨l, hrest, hwrites⟩ | ⟨joint', l, k, suffixed, hrest, hk, rfl, rfl⟩ := hf
    · refine ⟨⟨[joint], l⟩, by rw [htokens, hrest]; rfl, n, d, ?_⟩
      exact ⟨hwrites, hstored, hd, one_le_maxMinuses l, fun _ => hturned, by simp [hnum], hden⟩
    · refine ⟨⟨[joint, joint'], l⟩, by rw [htokens, hrest]; rfl, k, 1, ?_⟩
      have hk' : IsStored (k : Int) := ⟨by omega, by have := hstored.1; omega⟩
      exact ⟨.integer hk, hk', hd, (maxMinuses_of_integer hk).ge, fun _ => by omega,
        by simp [hnum], hden⟩
  · rw [hskip] at hf hnum
    obtain ⟨l, hrest, hwrites⟩ | ⟨joint', l, k, suffixed, hrest, -⟩ := hf
    · refine ⟨⟨[], l⟩, hrest, n, d, ?_⟩
      exact ⟨hwrites, hstored, hd, Nat.zero_le _, nofun, by simpa using hnum, hden⟩
    · exact absurd hrest (hnot _ _)

theorem takeExponent_eq_ok {tokens rest : List Token} :
    takeExponent tokens = .ok (e, rest) ↔ ∃ v : WrittenValue, tokens = v.tokens ++ rest ∧ v.Means e := by
  constructor
  · exact exists_tokens_of_takeExponent
  · rintro ⟨v, rfl, h⟩
    exact takeExponent_tokens h rest

end Dimensional.Marker
