import Dimensional.Proofs.Marker.Annotation
import Dimensional.Proofs.Marker.Code

/-!
# What an implementation says

The code of an implementation gives every base dimension the value that is written last for it in the
first attribute that tells the dimension, with all of its signs and not reduced, and the symbol that is
written last.
-/

namespace Dimensional.Marker

open Outcome
open Exponent (numbers)

/-! ## The attribute that counts -/

/-- The tokens are the arguments of the first attribute that tells the dimension. -/
def Declaration.HasArguments (d : Declaration) (tokens : List Token) : Prop :=
  ∃ before a after, d.attributes = before ++ a :: after ∧ (∀ b ∈ before, b.isDimension = false) ∧
    a.isDimension = true ∧ a.content = .arguments tokens

theorem arguments_eq_ok {a : Attribute} {tokens : List Token} :
    a.arguments = .ok tokens ↔ a.content = .arguments tokens := by
  unfold Attribute.arguments
  split <;> simp_all

theorem hasArguments_iff {d : Declaration} {tokens : List Token} :
    d.HasArguments tokens ↔
      ∃ a, d.attributes.find? Attribute.isDimension = some a ∧ a.arguments = .ok tokens := by
  unfold Declaration.HasArguments
  simp only [List.find?_eq_some_iff_append, arguments_eq_ok, Bool.not_eq_true']
  constructor
  · rintro ⟨before, a, after, hsplit, hbefore, ha, hcontent⟩
    exact ⟨a, ⟨ha, before, after, hsplit, hbefore⟩, hcontent⟩
  · rintro ⟨a, ⟨ha, before, after, hsplit, hbefore⟩, hcontent⟩
    exact ⟨before, a, after, hsplit, hbefore, ha, hcontent⟩

theorem Declaration.HasArguments.unique {d : Declaration} {tokens tokens' : List Token}
    (h : d.HasArguments tokens) (h' : d.HasArguments tokens') : tokens = tokens' := by
  obtain ⟨a, ha, htokens⟩ := hasArguments_iff.mp h
  obtain ⟨a', ha', htokens'⟩ := hasArguments_iff.mp h'
  rw [ha] at ha'
  cases ha'
  rw [htokens] at htokens'
  cases htokens'
  rfl

theorem annotation_eq_ok {d : Declaration} {a : Annotation} :
    d.annotation = .ok a ↔ ∃ tokens, d.HasArguments tokens ∧ Annotation.ofTokens tokens = .ok a := by
  simp only [hasArguments_iff]
  unfold Declaration.annotation
  split
  next hnone => simp [hnone]
  next b hsome =>
    change (b.arguments >>= Annotation.ofTokens) = .ok a ↔ _
    rw [bind_eq_ok, hsome]
    constructor
    · rintro ⟨tokens, hb, ha⟩
      exact ⟨tokens, ⟨b, rfl, hb⟩, ha⟩
    · rintro ⟨tokens, ⟨_, hb', hb⟩, ha⟩
      cases hb'
      exact ⟨tokens, hb, ha⟩

namespace Implementation

theorem ofDeclaration_eq_ok {d : Declaration} {i : Implementation} :
    ofDeclaration d = .ok i ↔ i.marker = d.name ∧
      ∃ tokens, d.HasArguments tokens ∧ Annotation.ofTokens tokens = .ok i.annotation := by
  rw [ofDeclaration, map_eq_ok, ← annotation_eq_ok]
  constructor
  · rintro ⟨a, ha, rfl⟩
    exact ⟨rfl, ha⟩
  · rintro ⟨hmarker, ha⟩
    exact ⟨i.annotation, ha, by rw [← hmarker]⟩

/-- The numbers `n / d` are what a value writes, with all signs applied to the numerator and nothing
reduced. -/
structure WritesRatio (v : WrittenValue) (n d : Int) : Prop where
  writes : ∃ p q, v.literal.Writes p q
  den_pos : 0 < d
  value : ∀ p q, v.literal.Writes p q → q ≠ 0 ∧ (n : ℚ) / d = (-1) ^ v.minuses.length * (p / q)
  unreduced : ∀ p q, v.literal.Writes p q → |n| = |p| ∧ d = |q|

theorem writesRatio_of_means {v : WrittenValue} {e : Exponent} (h : v.Means e) :
    WritesRatio v e.num e.den := by
  obtain ⟨p, q, h⟩ := h
  refine ⟨⟨p, q, h.writes⟩, e.den_pos, fun p' q' h' => ?_, fun p' q' h' => ?_⟩
  · obtain ⟨rfl, rfl⟩ := h.writes.unique h'
    exact ⟨h.den_ne_zero, h.value⟩
  · obtain ⟨rfl, rfl⟩ := h.writes.unique h'
    exact ⟨h.abs_num, h.den⟩

/-- The code follows the entries that are written: of every key it tells what is written last. -/
structure Code.Follows (c : Code) (ws : List (WrittenEntry × Option Bool))
    (ratio : BaseDimension → Int × Int) : Prop where
  ratios : c.ratios = BaseDimension.all.map ratio
  absent : ∀ b, values (.slot b) ws = [] → ratio b = (0, 1)
  last : ∀ b v, (values (.slot b) ws).getLast? = some v → WritesRatio v (ratio b).1 (ratio b).2
  /-- To build the exponent neither fails nor changes its numbers. -/
  stored : ∀ b, ∃ e, Exponent.ofPair (ratio b).1 (ratio b).2 = .ok e ∧ numbers e = ratio b
  symbol : c.symbol = (values .symbol ws).getLast?.map (·.literal)

theorem follows_of_says {i : Implementation} {ws : List (WrittenEntry × Option Bool)}
    (h : i.annotation.Says ws) :
    ∃ c, read? i.tokens = some c ∧ c.marker = i.marker ∧
      c.Follows ws fun b => numbers (i.annotation.dimension.exponent b) := by
  refine ⟨_, read?_tokens i, rfl, rfl, fun b hb => ?_, fun b v hv => ?_, fun b => ?_, h.symbol⟩
  · have hzero := h.exponent b
    rw [hb] at hzero
    exact congrArg numbers hzero
  · have hlast := h.exponent b
    rw [hv] at hlast
    exact writesRatio_of_means hlast
  · exact ⟨_, Exponent.ofPair_stored _, rfl⟩

/-- Two lengths, of which the second counts, a mass with two minuses, and a symbol. The second attribute
of the dimension does not count. -/
def repeated : Declaration where
  name := { text := "Volume" }
  attributes := [
    { rooted := false, path := [{ text := "doc" }], content := .value },
    { rooted := false, path := [{ text := "dimension" }], content := .arguments [
      .word "length", .mark '=' false, .literal { written := "1", value := .integer 1 false },
      .mark ',' false,
      .word "mass", .mark '=' true, .mark '-' true, .mark '-' false,
      .literal { written := "3", value := .integer 3 false },
      .word "symbol", .mark '=' false, .literal { written := "\"vol\"", value := .string "vol".toList },
      .mark ',' false,
      .word "length", .mark '=' true, .mark '-' false,
      .literal { written := "\"6 / -4\"", value := .string "6 / -4".toList }] },
    { rooted := false, path := [{ text := "dimension" }], content := .empty }]

end Implementation

end Dimensional.Marker
