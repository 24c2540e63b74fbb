import Dimensional.Proofs.Marker.Grammar.Agreement

/-!
# Steps of a scan

Every step leaves at most the tokens that were ahead, and the steps that only some answers take say so.
-/

namespace Dimensional.Marker

variable {α β : Type} {k n : ℕ} {t u v : Bool} {f f' : Scan α} {place after : Place} {a : α}

/-! ## Tokens -/

theorem size_pos (token : Token) : 0 < token.size := by
  cases token <;> simp [Token.size]

theorem sizeAll_cons (token : Token) (rest : List Token) :
    Token.sizeAll (token :: rest) = token.size + Token.sizeAll rest := by
  rw [Token.sizeAll]

theorem sizeAll_lt_cons (token : Token) (rest : List Token) :
    Token.sizeAll rest < Token.sizeAll (token :: rest) := by
  have := size_pos token
  rw [sizeAll_cons]
  omega

theorem sizeAll_tail_le (tokens : List Token) : Token.sizeAll tokens.tail ≤ Token.sizeAll tokens := by
  cases tokens with
  | nil => exact Nat.le_refl _
  | cons token rest => exact Nat.le_of_lt (sizeAll_lt_cons token rest)

theorem sizeAll_le_append (front rest : List Token) :
    Token.sizeAll rest ≤ Token.sizeAll (front ++ rest) := by
  induction front with
  | nil => exact Nat.le_refl _
  | cons token front ih => exact Nat.le_trans ih (Nat.le_of_lt (sizeAll_lt_cons token _))

theorem IsBehind.sizeAll_lt {tokens rest : List Token} (h : IsBehind rest tokens) :
    Token.sizeAll rest < Token.sizeAll tokens := by
  obtain ⟨token, front, rfl⟩ := h
  exact Nat.lt_of_le_of_lt (sizeAll_le_append front rest) (sizeAll_lt_cons token _)

/-! ## Taking tokens -/

/-- No tokens are added, and fewer are left if some are taken. -/
class Shortens (f : List Token → Except Complaint (α × List Token)) (takes : outParam Bool) : Prop where
  size_le : ∀ {tokens rest a}, f tokens = .ok (a, rest) →
    Token.sizeAll rest + takes.toNat ≤ Token.sizeAll tokens

namespace Shortens

instance takeName : Shortens takeName true where
  size_le h := (isBehind_of_takeName h).sizeAll_lt

instance takeLifetime : Shortens takeLifetime true where
  size_le h := (isBehind_of_takeLifetime h).sizeAll_lt

instance takeConstant : Shortens takeConstant true where
  size_le h := (isBehind_of_takeConstant h).sizeAll_lt

instance takeMarks {marks : String} : Shortens (fun tokens => (takeMarks marks tokens).map ((), ·)) true where
  size_le h := by
    obtain ⟨rest, hrest, h⟩ := Outcome.map_eq_ok.mp h
    cases h
    exact (isBehind_of_takeMarks hrest).sizeAll_lt

end Shortens

theorem take_apply (f : List Token → Except Complaint (α × List Token)) (place : Place) :
    take f place = (f place.ahead).map fun r => (r.1, { place with ahead := r.2 }) := by
  unfold take
  simp only [Scan.bind_apply, Scan.get_apply]
  cases f place.ahead <;> rfl

namespace Agrees

instance get : Agrees k t (get : Scan Place) get false where
  same _ _ := rfl
  size_le _ h := by
    cases h
    exact Nat.le_refl _

instance take {f : List Token → Except Complaint (α × List Token)} [hf : Shortens f u] :
    Agrees k t (take f) (take f) u where
  same _ _ := rfl
  size_le _ h := by
    rw [take_apply, Outcome.map_eq_ok] at h
    obtain ⟨r, hr, h⟩ := h
    cases h
    exact hf.size_le hr

instance refuse {wanted : List String} : Agrees k t (refuse wanted : Scan α) (refuse wanted) true := by
  dsimp only [Marker.refuse]
  exact .infer

instance peek {p : List Token → Bool} : Agrees k t (peek p) (peek p) false := by
  dsimp only [Marker.peek]
  exact .infer

instance expectName : Agrees k t expectName expectName true := by
  dsimp only [Marker.expectName]
  exact .infer

instance expectMarks {marks : String} : Agrees k t (expectMarks marks) (expectMarks marks) true := by
  dsimp only [Marker.expectMarks]
  exact .infer

instance expectLifetime : Agrees k t expectLifetime expectLifetime true := by
  dsimp only [Marker.expectLifetime]
  exact .infer

instance skipToken : Agrees k t skipToken skipToken false where
  same _ _ := rfl
  size_le _ h := by
    cases h
    exact sizeAll_tail_le _

end Agrees

/-! ## Answers -/

theorem peek_apply (p : List Token → Bool) (place : Place) : peek p place = .ok (p place.ahead, place) := rfl

namespace Accepts

theorem of_takes {p : List Token → Bool} {g : Scan Unit} (hg : ∀ k, Agrees k false g g true) :
    Accepts do
      if ← peek p then
        g
        return true
      else return false where
  size_le {place after b} h := by
    rw [Scan.bind_apply, peek_apply] at h
    simp only at h
    split at h
    · obtain ⟨a, middle, hfa, hga⟩ := Scan.bind_eq_ok.mp h
      cases hga
      exact (hg place.size).size_le (Nat.le_refl _) hfa
    · cases h
      exact Nat.le_refl _

instance acceptMarks {marks : String} : Accepts (acceptMarks marks) :=
  of_takes fun _ => inferInstance

instance acceptLifetime : Accepts acceptLifetime :=
  of_takes fun _ => inferInstance

instance acceptToken {p : List Token → Bool} : Accepts (acceptToken p) where
  size_le {place after b} h := by
    unfold Marker.acceptToken at h
    rw [Scan.bind_apply, peek_apply] at h
    obtain ⟨ahead, unread⟩ := place
    cases ahead with
    | nil =>
      cases h
      exact Nat.le_refl _
    | cons token rest =>
      simp only at h
      split at h
      · cases h
        exact sizeAll_lt_cons token rest
      · cases h
        exact Nat.le_refl _

instance acceptWord {text : String} : Accepts (acceptWord text) :=
  inferInstanceAs (Accepts (Marker.acceptToken _))

end Accepts

instance Agrees.expectWord {text : String} : Agrees k t (expectWord text) (expectWord text) true := by
  dsimp only [Marker.expectWord]
  exact .infer

/-! ## Groups -/

theorem withinThen_apply (d : Delimiter) (inside : Scan α) (following : α → Scan β) (place : Place) :
    withinThen d inside following place = match place.ahead with
      | .group e content :: ahead =>
        if d = e then do
          let (a, inner) ← inside { place with ahead := content }
          let (b, after) ← following a { inner with ahead }
          .ok (b, { after with unread := after.unread <|> if inner.ahead.isEmpty then none else some d })
        else .error (notFound [d.name] place.ahead)
      | _ => .error (notFound [d.name] place.ahead) := by
  obtain ⟨ahead, unread⟩ := place
  match ahead with
  | .group e content :: ahead =>
    by_cases h : d = e
    · simp only [withinThen, Scan.bind_apply, Scan.get_apply, Scan.set_apply, if_pos h]
      cases inside { ahead := content, unread } with
      | error c => rfl
      | ok r =>
        simp only [Scan.modify_apply]
        change _ = (following r.1 { r.2 with ahead } >>= _)
        cases following r.1 { r.2 with ahead } <;> rfl
    · simp only [withinThen, Scan.bind_apply, Scan.get_apply, if_neg h]
      rfl
  | [] => rfl
  | .name _ :: _ => rfl
  | .literal _ :: _ => rfl
  | .mark .. :: _ => rfl

theorem withinThen_eq_ok {d : Delimiter} {inside : Scan α} {following : α → Scan β} {b : β}
    (h : withinThen d inside following place = .ok (b, after)) :
    ∃ content ahead a unread last, place.ahead = .group d content :: ahead ∧
      following a { ahead, unread } = .ok (b, last) ∧ after.ahead = last.ahead := by
  rw [withinThen_apply] at h
  split at h
  · next e content ahead hahead =>
    split at h
    · next hd =>
      obtain ⟨⟨a, inner⟩, -, h⟩ := Outcome.bind_eq_ok.mp h
      obtain ⟨⟨b', last⟩, hlast, h⟩ := Outcome.bind_eq_ok.mp h
      cases h
      exact ⟨content, ahead, a, inner.unread, last, hd ▸ hahead, hlast, rfl⟩
    · contradiction
  · contradiction

theorem sizeAll_content_lt (d : Delimiter) (content ahead : List Token) :
    Token.sizeAll content < Token.sizeAll (.group d content :: ahead) := by
  rw [sizeAll_cons, Token.size]
  omega

namespace Agrees

instance withinThen {d : Delimiter} {inside inside' : Scan α} {following following' : α → Scan β}
    [hinside : Agrees k true inside inside' u] [hfollowing : ∀ a, Agrees k true (following a) (following' a) v] :
    Agrees k t (withinThen d inside following) (withinThen d inside' following') true where
  same place hplace := by
    rw [withinThen_apply, withinThen_apply]
    split
    · next e content ahead hahead =>
      have hcontent : Place.size { place with ahead := content } < place.size := by
        rw [Place.size, Place.size, hahead]
        exact sizeAll_content_lt e content ahead
      have hbehind (unread) : Place.size { ahead, unread } < place.size := by
        rw [Place.size, Place.size, hahead]
        exact sizeAll_lt_cons _ ahead
      rw [hinside.same _ (hplace.of_size_lt hcontent)]
      simp only [(hfollowing _).same _ (hplace.of_size_lt (hbehind _))]
    · rfl
  size_le {place after b} hplace h := by
    obtain ⟨content, ahead, a, unread, last, hahead, hlast, hafter⟩ := withinThen_eq_ok h
    have hbehind : Place.size { ahead, unread } < place.size := by
      rw [Place.size, Place.size, hahead]
      exact sizeAll_lt_cons _ ahead
    have hsize := (hfollowing a).size_le (hplace.of_size_lt hbehind) hlast
    have hlast : after.size = last.size := by rw [Place.size, hafter, Place.size]
    rw [hlast, Bool.toNat_true]
    omega

instance within {d : Delimiter} {inside inside' : Scan α} [Agrees k true inside inside' u] :
    Agrees k t (within d inside) (within d inside') true := by
  dsimp only [Marker.within]
  exact .infer

instance leaveEmpty : Agrees k t (modify fun place => { place with ahead := [] })
    (modify fun place => { place with ahead := [] }) false where
  same _ _ := rfl
  size_le _ h := by
    cases h
    simp [Place.size, Token.sizeAll]

instance skipGroup {d : Delimiter} : Agrees k t (skipGroup d) (skipGroup d) true := by
  dsimp only [Marker.skipGroup]
  exact .infer

/-! ## Attempts and repetitions -/

instance attempt [hf : Agrees k t f f' u] : Agrees k t (attempt f) (attempt f') false where
  same place hplace := by
    unfold Marker.attempt StateT.run
    rw [hf.same place hplace]
  size_le {place after a} hplace h := by
    unfold Marker.attempt StateT.run at h
    split at h
    · next hr =>
      cases h
      exact Nat.le_of_add_right_le (hf.size_le hplace hr)
    · cases h
      exact Nat.le_refl _

theorem iterateAtMost {step step' : α → Scan (α × Bool)} (hstep : ∀ a, Agrees k t (step a) (step' a) u)
    (m : ℕ) (a : α) : Agrees k t (iterateAtMost step m a) (iterateAtMost step' m a) false := by
  induction m generalizing a with
  | zero =>
    unfold Marker.iterateAtMost
    exact .infer
  | succ m ih =>
    unfold Marker.iterateAtMost
    exact .infer

instance iterate {step step' : α → Scan (α × Bool)} [hstep : ∀ a, Agrees k t (step a) (step' a) u] :
    Agrees k t (iterate step a) (iterate step' a) false := by
  have := iterateAtMost hstep
  dsimp only [Marker.iterate]
  exact .infer

instance repeatScan {step step' : Scan Bool} [Agrees k t step step' u] :
    Agrees k t (repeatScan step) (repeatScan step') false := by
  dsimp only [Marker.repeatScan]
  exact .infer

variable {isEnd : List Token → Bool} {item item' : Scan Unit}

instance commaSeparated [Agrees k t item item' u] :
    Agrees k t (commaSeparated isEnd item) (commaSeparated isEnd item') false := by
  dsimp only [Marker.commaSeparated]
  exact .infer

instance plusSeparated [Agrees k t item item' u] :
    Agrees k t (plusSeparated isEnd item) (plusSeparated isEnd item') false := by
  dsimp only [Marker.plusSeparated]
  exact .infer

instance plusSeparatedTo [Agrees k t item item' u] :
    Agrees k t (plusSeparatedTo isEnd item) (plusSeparatedTo isEnd item') false := by
  dsimp only [Marker.plusSeparatedTo]
  exact .infer

/-! ## Phrases -/

variable {S S' : PhraseScan} {p : Phrase}

theorem phrase [h : Alike k n S S'] [hp : Reaches t p n] : Agrees k t (S p) (S' p) false :=
  h.phrase t p hp

-- What is kept of a phrase depends on the phrase, so instances are found only for known ones.

instance phraseType {plus : Bool} [Alike k n S S'] [Reaches t (.type plus) n] :
    Agrees k t (S (.type plus)) (S' (.type plus)) false :=
  phrase

instance phraseBound {rule : BoundRule} [Alike k n S S'] [Reaches t (.bound rule) n] :
    Agrees k t (S (.bound rule)) (S' (.bound rule)) false :=
  phrase

instance phraseOperand {structs : Bool} [Alike k n S S'] [Reaches t (.operand structs) n] :
    Agrees k t (S (.operand structs)) (S' (.operand structs)) false :=
  phrase

instance phraseBounded [Alike k n S S'] [Reaches t .bounded n] : Agrees k t (S .bounded) (S' .bounded) false :=
  phrase

instance phrasePattern [Alike k n S S'] [Reaches t .pattern n] : Agrees k t (S .pattern) (S' .pattern) false :=
  phrase

instance skip [Alike k n S S'] [Reaches t p n] : Agrees k t (S.skip p) (S'.skip p) false := by
  have : Agrees k t (S p) (S' p) false := phrase
  dsimp only [PhraseScan.skip]
  exact .infer

instance skipType [Alike k n S S'] [Taken t] : Agrees k t S.skipType S'.skipType false := by
  dsimp only [PhraseScan.skipType]
  exact .infer

instance skipExpression [Alike k n S S'] [Taken t] : Agrees k t S.skipExpression S'.skipExpression false := by
  dsimp only [PhraseScan.skipExpression]
  exact .infer

instance forIn {γ : Type} {l : List γ} {b : β} {g g' : γ → β → Scan (ForInStep β)}
    [hg : ∀ c b, Agrees k t (g c b) (g' c b) u] : Agrees k t (forIn l b g) (forIn l b g') false := by
  induction l generalizing b with
  | nil =>
    rw [List.forIn_nil, List.forIn_nil]
    exact .infer
  | cons c l ih =>
    rw [List.forIn_cons, List.forIn_cons]
    refine .chain fun r => ?_
    cases r with
    | done b => exact .infer
    | yield b =>
      have := @ih b
      exact .infer

end Agrees

end Dimensional.Marker
