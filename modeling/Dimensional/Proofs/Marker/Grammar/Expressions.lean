import Dimensional.Proofs.Marker.Grammar.Types

/-! # Patterns, expressions and statements -/

namespace Dimensional.Marker.Agrees

-- The instance for a long scan is as large as the scan.
set_option synthInstance.maxSize 500

variable {k n : ℕ} {t : Bool} {S S' : PhraseScan}

/-! ## Members -/

instance takeIndex : Shortens takeIndex true where
  size_le h := by
    unfold Marker.takeIndex at h
    split at h
    · split at h
      · contradiction
      · split at h
        · contradiction
        · cases h
          exact (IsBehind.cons _).sizeAll_lt
    · contradiction
    · contradiction

instance expectIndex : Agrees k t expectIndex expectIndex true := by
  dsimp only [Marker.expectIndex]
  exact .infer

instance expectMember : Agrees k t expectMember expectMember true := by
  dsimp only [Marker.expectMember]
  exact .infer

theorem isBehind_of_skipFraction? {tokens rest : List Token} {written : String}
    (h : skipFraction? tokens = some (written, rest)) : IsBehind rest tokens := by
  unfold skipFraction? at h
  split at h
  · cases h
    exact .cons _
  · cases h
    exact .cons_cons _ _
  · contradiction

instance takeIndices : Shortens takeIndices false where
  size_le h := by
    unfold Marker.takeIndices at h
    split at h
    · cases h
      exact Nat.le_refl _
    · next hfound =>
      obtain ⟨_, -, h⟩ := Outcome.bind_eq_ok.mp h
      cases h
      exact Nat.le_of_lt (isBehind_of_skipFraction? hfound).sizeAll_lt

instance acceptIndices : Agrees k t acceptIndices acceptIndices false := by
  dsimp only [Marker.acceptIndices]
  exact .infer

/-! ## Patterns -/

instance alternatives [Alike k n S S'] [Reaches t .pattern n] :
    Agrees k t S.alternatives S'.alternatives false := by
  dsimp only [PhraseScan.alternatives]
  exact .infer

instance skipAlternatives [Alike k n S S'] [Reaches t .pattern n] :
    Agrees k t S.skipAlternatives S'.skipAlternatives false := by
  dsimp only [PhraseScan.skipAlternatives]
  exact .infer

instance patterns [Alike k n S S'] : Agrees k t S.patterns S'.patterns true := by
  dsimp only [PhraseScan.patterns]
  exact .infer

instance slicePattern [Alike k n S S'] : Agrees k t S.slicePattern S'.slicePattern true := by
  dsimp only [PhraseScan.slicePattern]
  exact .infer

instance patternBound [Alike k n S S'] : Agrees k t S.patternBound S'.patternBound false := by
  dsimp only [PhraseScan.patternBound]
  exact .infer

instance patternEnd {closed : Bool} [Alike k n S S'] :
    Agrees k t (S.patternEnd closed) (S'.patternEnd closed) false := by
  dsimp only [PhraseScan.patternEnd]
  exact .infer

instance fieldPattern [Alike k n S S'] : Agrees k t S.fieldPattern S'.fieldPattern true := by
  dsimp only [PhraseScan.fieldPattern]
  exact .infer

instance fieldPatterns [Alike k n S S'] : Agrees k t S.fieldPatterns S'.fieldPatterns true := by
  dsimp only [PhraseScan.fieldPatterns]
  exact .infer

instance patternDots : Agrees k t patternDots patternDots true := by
  dsimp only [Marker.patternDots]
  exact .infer

instance rangeDots : Agrees k t rangeDots rangeDots true := by
  dsimp only [Marker.rangeDots]
  exact .infer

instance pathPattern [Alike k n S S'] : Agrees k t S.pathPattern S'.pathPattern true := by
  dsimp only [PhraseScan.pathPattern]
  exact .infer

instance binding [Alike k n S S'] : Agrees k t S.binding S'.binding true := by
  dsimp only [PhraseScan.binding]
  exact .infer

instance pattern [Alike k n S S'] : Agrees k t S.pattern S'.pattern false := by
  dsimp only [PhraseScan.pattern]
  exact .infer

/-! ## Operators -/

instance rangeEnd {structs : Bool} [Alike k n S S'] :
    Agrees k t (S.rangeEnd structs) (S'.rangeEnd structs) true := by
  dsimp only [PhraseScan.rangeEnd]
  exact .infer

instance castType [Alike k n S S'] [Taken t] : Agrees k t S.castType S'.castType false := by
  dsimp only [PhraseScan.castType]
  refine .chain fun _ => ?_
  refine .chain fun _ => ?_
  split <;> exact .infer

instance operation {structs : Bool} {base : Precedence} {left : ExpressionShape} [Alike k n S S'] :
    Agrees k t (S.operation structs base left) (S'.operation structs base left) false := by
  dsimp only [PhraseScan.operation]
  refine .chain fun _ => ?_
  split
  · exact .infer
  · split
    · exact .infer
    · split
      · exact .infer
      · split <;> exact .infer

instance operations {structs : Bool} {base : Precedence} {left : ExpressionShape} [Alike k n S S'] :
    Agrees k t (S.operations structs base left) (S'.operations structs base left) false := by
  dsimp only [PhraseScan.operations]
  exact .infer

instance rightSide {structs : Bool} {p : Precedence} [Alike k n S S'] [Reaches t (.operand structs) n] :
    Agrees k t (S.rightSide structs p) (S'.rightSide structs p) false := by
  dsimp only [PhraseScan.rightSide]
  exact .infer

instance expression {structs : Bool} [Alike k n S S'] [Reaches t (.operand structs) n] :
    Agrees k t (S.expression structs) (S'.expression structs) false := by
  dsimp only [PhraseScan.expression]
  exact .infer

/-! ## Steps into a value -/

instance callArguments [Alike k n S S'] : Agrees k t S.callArguments S'.callArguments true := by
  dsimp only [PhraseScan.callArguments]
  exact .infer

instance access [Alike k n S S'] : Agrees k t S.access S'.access true := by
  dsimp only [PhraseScan.access]
  exact .infer

instance step {shape : ExpressionShape} [Alike k n S S'] :
    Agrees k t (S.step shape) (S'.step shape) false := by
  dsimp only [PhraseScan.step]
  exact .infer

instance steps {shape : ExpressionShape} [Alike k n S S'] :
    Agrees k t (S.steps shape) (S'.steps shape) false := by
  dsimp only [PhraseScan.steps]
  exact .infer

/-! ## Blocks -/

instance subject [Alike k n S S'] [Taken t] : Agrees k t S.subject S'.subject false := by
  dsimp only [PhraseScan.subject]
  exact .infer

instance arm [Alike k n S S'] [Taken t] : Agrees k t S.arm S'.arm false := by
  dsimp only [PhraseScan.arm]
  exact .infer

instance arms [Alike k n S S'] [Taken t] : Agrees k t S.arms S'.arms false := by
  dsimp only [PhraseScan.arms]
  exact .infer

instance branches [Alike k n S S'] [Taken t] : Agrees k t S.branches S'.branches false := by
  dsimp only [PhraseScan.branches]
  exact .infer

instance unlabelledBlock [Alike k n S S'] : Agrees k t S.unlabelledBlock S'.unlabelledBlock true := by
  dsimp only [PhraseScan.unlabelledBlock]
  exact .infer

instance blockExpression [Alike k n S S'] : Agrees k t S.blockExpression S'.blockExpression true := by
  dsimp only [PhraseScan.blockExpression]
  exact .infer

instance bounded [Alike k n S S'] [Reaches t (.operand true) n] : Agrees k t S.bounded S'.bounded false := by
  dsimp only [PhraseScan.bounded]
  exact .infer

/-! ## Operands -/

instance fieldValues [Alike k n S S'] : Agrees k t S.fieldValues S'.fieldValues true := by
  dsimp only [PhraseScan.fieldValues]
  exact .infer

instance pathExpression {structs : Bool} [Alike k n S S'] :
    Agrees k t (S.pathExpression structs) (S'.pathExpression structs) false := by
  dsimp only [PhraseScan.pathExpression]
  refine .chain fun _ => .chain fun d => ?_
  cases d <;> exact .infer

instance listElements [Alike k n S S'] [Taken t] : Agrees k t S.listElements S'.listElements false := by
  dsimp only [PhraseScan.listElements]
  exact .infer

instance closureParameter [Alike k n S S'] [Taken t] :
    Agrees k t S.closureParameter S'.closureParameter false := by
  dsimp only [PhraseScan.closureParameter]
  exact .infer

instance closure {structs : Bool} [Alike k n S S'] :
    Agrees k t (S.closure structs) (S'.closure structs) true := by
  dsimp only [PhraseScan.closure]
  exact .infer

instance optionalValue [Alike k n S S'] [Taken t] : Agrees k t S.optionalValue S'.optionalValue false := by
  dsimp only [PhraseScan.optionalValue]
  exact .infer

instance breakTarget {structs : Bool} [Alike k n S S'] [Taken t] :
    Agrees k t (S.breakTarget structs) (S'.breakTarget structs) false := by
  dsimp only [PhraseScan.breakTarget]
  exact .infer

instance patternCondition {structs : Bool} [Alike k n S S'] [Taken t] :
    Agrees k t (S.patternCondition structs) (S'.patternCondition structs) false := by
  dsimp only [PhraseScan.patternCondition]
  exact .infer

instance wordExpression {structs : Bool} [Alike k n S S'] :
    Agrees k t (S.wordExpression structs) (S'.wordExpression structs) false := by
  dsimp only [PhraseScan.wordExpression]
  exact .infer

instance atom {structs : Bool} [Alike k n S S'] : Agrees k t (S.atom structs) (S'.atom structs) false := by
  dsimp only [PhraseScan.atom]
  exact .infer

instance operand {structs : Bool} [Alike k n S S'] :
    Agrees k t (S.operand structs) (S'.operand structs) false := by
  dsimp only [PhraseScan.operand]
  exact .infer

/-! ## Statements -/

instance initialValue [Alike k n S S'] [Taken t] : Agrees k t S.initialValue S'.initialValue false := by
  dsimp only [PhraseScan.initialValue]
  refine .chain fun _ => .chain fun _ => .chain fun _ => ?_
  split <;> exact .infer

instance binds [Alike k n S S'] : Agrees k t S.binds S'.binds true := by
  dsimp only [PhraseScan.binds]
  exact .infer

instance statement [Alike k n S S'] [Reaches t .item n] [Reaches t .bounded n] :
    Agrees k t S.statement S'.statement false := by
  dsimp only [PhraseScan.statement]
  exact .infer

instance statements [Alike k n S S'] [Reaches t .item n] [Reaches t .bounded n] :
    Agrees k t S.statements S'.statements false := by
  dsimp only [PhraseScan.statements]
  exact .infer

end Dimensional.Marker.Agrees
