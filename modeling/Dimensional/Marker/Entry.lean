import Dimensional.BaseDimension
import Dimensional.Exponent.Basic
import Dimensional.Marker.Error
import Dimensional.Marker.Take
import Dimensional.Outcome
import Dimensional.Text.Blank

/-!
# Entries of the dimension attribute

The inside of the attribute is a sequence of entries `key = value`, each with at most one comma behind
it. The key names a base dimension, and the value is its exponent, or the key is `symbol`, and the value
is a string.
-/

namespace Dimensional.Marker

open Outcome
open scoped Powers

/-! ## Fractions -/

/-- The number is one that can be stored. -/
def IsStored (n : Int) : Prop := -2 ^ (31 : Nat) ≤ n ∧ n < 2 ^ (31 : Nat)

instance : DecidablePred IsStored := fun _ => inferInstanceAs (Decidable (_ ∧ _))

/-- A numerator and a denominator as written, with their signs. -/
@[ext]
structure Fraction where
  num : Int
  den : Int
  num_stored : IsStored num
  den_stored : IsStored den
  den_ne_zero : den ≠ 0

/-- The number of a text: digits, perhaps with a sign before them. It has to fit a stored number. -/
def storedNumber? (cs : List Char) : Option {n : Int // IsStored n} :=
  let (sign, digits) : Int × List Char :=
    match cs with
    | '+' :: rest => (1, rest)
    | '-' :: rest => (-1, rest)
    | rest => (1, rest)
  let n := sign * (Nat.ofDigitChars 10 digits 0 : Int)
  if h : (!digits.isEmpty && digits.all Char.isDigit) ∧ IsStored n then some ⟨n, h.2⟩ else none

/-- The two sides of a text at its first slash, without the blanks around them. A text without a slash
is over one. -/
def sides (text : List Char) : List Char × List Char :=
  match text.dropWhile (· ≠ '/') with
  | [] => (Text.trimBlanks text, ['1'])
  | _ :: below => (Text.trimBlanks (text.takeWhile (· ≠ '/')), Text.trimBlanks below)

/-- The fraction that a text writes. -/
def fraction (text : List Char) : Except MarkerError Fraction :=
  let (above, below) := sides text
  match storedNumber? above, storedNumber? below with
  | some n, some d =>
    if h : d.1 = 0 then .error .zeroDenominator else .ok ⟨n.1, d.1, n.2, d.2, h⟩
  | _, _ => .error (.notFraction (String.ofList text))

/-- The fraction that a constant stands for. -/
def Constant.fraction : Constant → Except MarkerError Fraction
  | .integer n =>
    if hlow : n < -2 ^ (31 : Nat) then .error .tooSmall
    else if hhigh : 2 ^ (31 : Nat) ≤ n then .error .tooLarge
    else .ok ⟨n, 1, ⟨Int.not_lt.mp hlow, Int.not_le.mp hhigh⟩, by decide, by decide⟩
  | .string text _ => Marker.fraction text
  | .other => .error .notExponent

/-! ## Signs -/

/-- The sign of a negative denominator moved to the numerator, on the two numbers alone. -/
def settleSigns (n d : Int) : Except Fault (Int × Int) :=
  if d < 0 then do
    let n ← Exponent.negate n
    let d ← Exponent.negate d
    return (n, d)
  else .ok (n, d)

/-- The two numbers with all signs settled. A minus before the fraction belongs to the numerator and is
worked out before the sign of the denominator. -/
def Fraction.settle (negative : Bool) (q : Fraction) : Except Fault (Int × Int) := do
  let n ← if negative then Exponent.negate q.num else pure q.num
  settleSigns n q.den

@[simp] theorem Fraction.settle_false (q : Fraction) : q.settle false = settleSigns q.num q.den := rfl

@[simp] theorem Fraction.settle_true (q : Fraction) :
    q.settle true = Exponent.negate q.num >>= fun n => settleSigns n q.den := rfl

theorem isStored_neg {n : Int} (h : IsStored n) (hne : n ≠ -2 ^ (31 : Nat)) : IsStored (-n) := by
  unfold IsStored at h ⊢
  omega

theorem stored_settleSigns {n d : Int} {r : Int × Int} (hn : IsStored n) (hd : IsStored d) (hzero : d ≠ 0)
    (h : settleSigns n d = .ok r) : IsStored r.1 ∧ 0 < r.2 ∧ r.2 < 2 ^ (31 : Nat) := by
  unfold settleSigns at h
  split at h
  · simp only [bind_eq_ok, Exponent.negate_eq_ok] at h
    obtain ⟨_, ⟨hnmin, rfl⟩, _, ⟨hdmin, rfl⟩, h⟩ := h
    cases h
    exact ⟨isStored_neg hn hnmin, by omega, (isStored_neg hd hdmin).2⟩
  · cases h
    exact ⟨hn, by omega, hd.2⟩

theorem Fraction.stored_settle {negative : Bool} {q : Fraction} {r : Int × Int}
    (h : q.settle negative = .ok r) : IsStored r.1 ∧ 0 < r.2 ∧ r.2 < 2 ^ (31 : Nat) := by
  cases negative with
  | false => exact stored_settleSigns q.num_stored q.den_stored q.den_ne_zero h
  | true =>
    rw [settle_true] at h
    obtain ⟨_, hturn, h⟩ := bind_eq_ok.mp h
    obtain ⟨hmin, rfl⟩ := Exponent.negate_eq_ok.mp hturn
    exact stored_settleSigns (isStored_neg q.num_stored hmin) q.den_stored q.den_ne_zero h

/-! ## Exponents -/

/-- The exponent that stores the numbers of a fraction, once their signs are settled. -/
def signedExponent (negative : Bool) (q : Fraction) : Except Fault Exponent :=
  match h : q.settle negative with
  | .error f => .error f
  | .ok (n, d) =>
    have hstored := Fraction.stored_settle h
    .ok ⟨n, d, hstored.1.1, hstored.1.2, hstored.2.1, hstored.2.2⟩

/-- The tokens behind a minus, and whether there was one. -/
def skipMinus : List Token → Bool × List Token
  | .mark '-' _ :: rest => (true, rest)
  | tokens => (false, tokens)

/-- An exponent: a constant, perhaps with a minus before it that is not part of it. -/
def takeExponent (tokens : List Token) : Except MarkerError (Exponent × List Token) := do
  let (negative, tokens) := skipMinus tokens
  let (c, rest) ← (takeConstant tokens).mapError .entry
  let q ← c.fraction
  let e ← (signedExponent negative q).mapError .fault
  return (e, rest)

/-! ## Entries -/

/-- What an entry is about. -/
inductive Key where
  | slot (b : BaseDimension)
  | symbol
deriving DecidableEq

/-- The word for a base dimension as a key. -/
def slotWord : BaseDimension → String
  | .length => "length"
  | .mass => "mass"
  | .time => "time"
  | .current => "current"
  | .temperature => "temperature"
  | .substance => "substance"
  | .luminousIntensity => "luminous_intensity"

/-- The word for a key. -/
def Key.word : Key → String
  | slot b => slotWord b
  | symbol => "symbol"

/-- All keys. -/
def Key.all : List Key :=
  .symbol :: BaseDimension.all.map .slot

/-- The key that a name is. -/
def Key.ofName? (n : Name) : Option Key :=
  Key.all.find? fun k => n = { text := k.word }

/-- An entry. -/
inductive Entry where
  | exponent (b : BaseDimension) (e : Exponent)
  | symbol (l : Literal)
deriving DecidableEq

/-- The key of an entry. -/
def Entry.key : Entry → Key
  | exponent b _ => .slot b
  | symbol _ => .symbol

/-- The value of a key, as an entry. -/
def takeValue (tokens : List Token) : Key → Except MarkerError (Entry × List Token)
  | .slot b => (takeExponent tokens).map fun (e, rest) => (.exponent b e, rest)
  | .symbol => ((takeString tokens).map fun (l, rest) => (.symbol l, rest)).mapError .entry

/-- An entry. An unknown key is reported once the mark behind it is read, whatever follows. -/
def takeEntry (tokens : List Token) : Except MarkerError (Entry × List Token) := do
  let (name, rest) ← (takeName tokens).mapError .entry
  let rest ← (takeMarks "=" rest).mapError .entry
  match Key.ofName? name with
  | some key => takeValue rest key
  | none => throw (.unknownKey name)

/-! ## Every entry takes tokens -/

theorem length_skipMinus (tokens : List Token) : (skipMinus tokens).2.length ≤ tokens.length := by
  unfold skipMinus
  split <;> simp

theorem length_skipComma (tokens : List Token) : (skipComma tokens).length ≤ tokens.length := by
  unfold skipComma
  split <;> simp

theorem length_takeExponent {tokens rest : List Token} {e : Exponent}
    (h : takeExponent tokens = .ok (e, rest)) : rest.length < tokens.length := by
  simp only [takeExponent, bind_eq_ok, mapError_eq_ok] at h
  obtain ⟨⟨c, after⟩, hc, _, _, _, _, h⟩ := h
  cases h
  exact Nat.lt_of_lt_of_le (isBehind_of_takeConstant hc).length_lt (length_skipMinus tokens)

theorem length_takeValue {tokens rest : List Token} {key : Key} {e : Entry}
    (h : takeValue tokens key = .ok (e, rest)) : rest.length < tokens.length := by
  cases key with
  | slot b =>
    simp only [takeValue, map_eq_ok] at h
    obtain ⟨⟨_, _⟩, h', h⟩ := h
    cases h
    exact length_takeExponent h'
  | symbol =>
    simp only [takeValue, mapError_eq_ok, map_eq_ok] at h
    obtain ⟨⟨_, _⟩, h', h⟩ := h
    cases h
    exact (isBehind_of_takeString h').length_lt

theorem length_takeEntry {tokens rest : List Token} {e : Entry}
    (h : takeEntry tokens = .ok (e, rest)) : rest.length < tokens.length := by
  simp only [takeEntry, bind_eq_ok, mapError_eq_ok] at h
  obtain ⟨⟨n, afterName⟩, hn, afterMark, hm, h⟩ := h
  split at h
  · have := length_takeValue h
    have hafterMark := (isBehind_of_takeMarks hm).length_lt
    have hafterName := (isBehind_of_takeName hn).length_lt
    dsimp only at hafterMark
    omega
  · cases h

/-! ## All entries -/

/-- The entries that some tokens write, each with at most one comma behind it. -/
def takeEntries (tokens : List Token) : Except MarkerError (List Entry) :=
  if tokens.isEmpty then .ok []
  else
    match _h : takeEntry tokens with
    | .error e => .error e
    | .ok (entry, rest) => (takeEntries (skipComma rest)).map (entry :: ·)
termination_by tokens.length
decreasing_by
  exact Nat.lt_of_le_of_lt (length_skipComma rest) (length_takeEntry _h)

end Dimensional.Marker
