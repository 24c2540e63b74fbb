import Dimensional.Proofs.Marker.Grammar.Steps

/-! # Types -/

namespace Dimensional.Marker.Agrees

-- The instance for a long scan is as large as the scan.
set_option synthInstance.maxSize 500

variable {k n : ℕ} {t : Bool} {S S' : PhraseScan}

/-! ## Attributes -/

theorem plainPath (m : ℕ) : Agrees k t (plainPath m) (plainPath m) false := by
  induction m generalizing t with
  | zero => exact pure _
  | succ m ih =>
    unfold Marker.plainPath
    refine .chain fun place => ?_
    have := @ih
    split <;> exact .infer

instance expectPlainPath : Agrees k t expectPlainPath expectPlainPath false := by
  have := @plainPath
  dsimp only [Marker.expectPlainPath]
  exact .infer

instance expectGroup : Agrees k t expectGroup expectGroup false := by
  refine .chain fun place => ?_
  split <;> exact .infer

instance attributeValue [Alike k n S S'] [Taken t] : Agrees k t S.attributeValue S'.attributeValue false := by
  dsimp only [PhraseScan.attributeValue]
  exact .infer

instance attributeInside [Alike k n S S'] [Taken t] :
    Agrees k t S.attributeInside S'.attributeInside false := by
  dsimp only [PhraseScan.attributeInside]
  exact .infer

theorem attributesAtMost [Alike k n S S'] (m : ℕ) :
    Agrees k t (S.attributesAtMost m) (S'.attributesAtMost m) false := by
  induction m generalizing t with
  | zero => exact pure _
  | succ m ih =>
    unfold PhraseScan.attributesAtMost
    have := @ih
    exact .infer

instance attributes [Alike k n S S'] : Agrees k t S.attributes S'.attributes false := by
  have := @attributesAtMost k n
  dsimp only [PhraseScan.attributes]
  exact .infer

instance skipAttributes [Alike k n S S'] : Agrees k t S.skipAttributes S'.skipAttributes false := by
  dsimp only [PhraseScan.skipAttributes]
  exact .infer

instance skipInnerAttributes [Alike k n S S'] :
    Agrees k t S.skipInnerAttributes S'.skipInnerAttributes false := by
  dsimp only [PhraseScan.skipInnerAttributes]
  exact .infer

instance block [Alike k n S S'] : Agrees k t S.block S'.block true := by
  dsimp only [PhraseScan.block]
  exact .infer

instance body [Alike k n S S'] : Agrees k t S.body S'.body true := by
  dsimp only [PhraseScan.body]
  exact .infer

/-! ## Paths -/

instance builtin : Agrees k t builtin builtin true := by
  dsimp only [Marker.builtin]
  exact .infer

instance value [Alike k n S S'] : Agrees k t S.value S'.value true := by
  dsimp only [PhraseScan.value]
  exact .infer

instance typeCondition [Alike k n S S'] : Agrees k t S.typeCondition S'.typeCondition false := by
  dsimp only [PhraseScan.typeCondition]
  exact .infer

instance argument [Alike k n S S'] [Taken t] : Agrees k t S.argument S'.argument false := by
  dsimp only [PhraseScan.argument]
  exact .infer

instance arguments [Alike k n S S'] : Agrees k t S.arguments S'.arguments true := by
  dsimp only [PhraseScan.arguments]
  exact .infer

instance segment {inExpression : Bool} [Alike k n S S'] :
    Agrees k t (S.segment inExpression) (S'.segment inExpression) true := by
  dsimp only [PhraseScan.segment]
  exact .infer

instance segments {inExpression qualified : Bool} [Alike k n S S'] :
    Agrees k t (S.segments inExpression qualified) (S'.segments inExpression qualified) true := by
  dsimp only [PhraseScan.segments]
  exact .infer

instance path {inExpression : Bool} [Alike k n S S'] :
    Agrees k t (S.path inExpression) (S'.path inExpression) true := by
  dsimp only [PhraseScan.path]
  exact .infer

instance qualifiedPath {inExpression : Bool} [Alike k n S S'] :
    Agrees k t (S.qualifiedPath inExpression) (S'.qualifiedPath inExpression) true := by
  dsimp only [PhraseScan.qualifiedPath]
  exact .infer

instance macroCall? {p : PathShape} :
    Agrees k t (PhraseScan.macroCall? p) (PhraseScan.macroCall? p) false := by
  dsimp only [PhraseScan.macroCall?]
  exact .infer

/-! ## Parameters -/

instance captures : Agrees k t captures captures true := by
  dsimp only [Marker.captures]
  exact .infer

instance skipBound [Alike k n S S'] [Taken t] : Agrees k t S.skipBound S'.skipBound false := by
  dsimp only [PhraseScan.skipBound]
  exact .infer

instance lifetimeParameter : Agrees k t PhraseScan.lifetimeParameter PhraseScan.lifetimeParameter true := by
  dsimp only [PhraseScan.lifetimeParameter]
  exact .infer

instance typeParameter [Alike k n S S'] : Agrees k t S.typeParameter S'.typeParameter true := by
  dsimp only [PhraseScan.typeParameter]
  exact .infer

instance valueParameter [Alike k n S S'] : Agrees k t S.valueParameter S'.valueParameter true := by
  dsimp only [PhraseScan.valueParameter]
  exact .infer

instance parameter [Alike k n S S'] : Agrees k t S.parameter S'.parameter true := by
  dsimp only [PhraseScan.parameter]
  exact .infer

instance parameters [Alike k n S S'] : Agrees k t S.parameters S'.parameters false := by
  dsimp only [PhraseScan.parameters]
  exact .infer

instance quantified [Alike k n S S'] : Agrees k t S.quantified S'.quantified true := by
  dsimp only [PhraseScan.quantified]
  exact .infer

instance quantifier [Alike k n S S'] : Agrees k t S.quantifier S'.quantifier false := by
  dsimp only [PhraseScan.quantifier]
  exact .infer

/-! ## Bounds -/

instance result {plus : Bool} [Alike k n S S'] : Agrees k t (S.result plus) (S'.result plus) false := by
  dsimp only [PhraseScan.result]
  exact .infer

instance functionArguments {p : PathShape} [Alike k n S S'] :
    Agrees k t (S.functionArguments p) (S'.functionArguments p) false := by
  dsimp only [PhraseScan.functionArguments]
  exact .infer

instance constantMark {rule : BoundRule} :
    Agrees k t (PhraseScan.constantMark rule) (PhraseScan.constantMark rule) false := by
  dsimp only [PhraseScan.constantMark]
  exact .infer

instance traitBound {rule : BoundRule} [Alike k n S S'] :
    Agrees k t (S.traitBound rule) (S'.traitBound rule) true := by
  dsimp only [PhraseScan.traitBound]
  exact .infer

instance bound {rule : BoundRule} [Alike k n S S'] : Agrees k t (S.bound rule) (S'.bound rule) true := by
  dsimp only [PhraseScan.bound]
  exact .infer

instance anyTrait {plus : Bool} {rule : BoundRule} [Alike k n S S'] [Reaches t (.bound rule) n] :
    Agrees k t (S.anyTrait plus rule) (S'.anyTrait plus rule) false := by
  dsimp only [PhraseScan.anyTrait]
  exact .infer

instance objectBounds {plus : Bool} [Alike k n S S'] [Reaches t (.bound ⟨false, false⟩) n] :
    Agrees k t (S.objectBounds plus) (S'.objectBounds plus) false := by
  dsimp only [PhraseScan.objectBounds]
  exact .infer

instance hiddenBounds {plus : Bool} [Alike k n S S'] [Reaches t (.bound ⟨true, true⟩) n] :
    Agrees k t (S.hiddenBounds plus) (S'.hiddenBounds plus) false := by
  dsimp only [PhraseScan.hiddenBounds]
  exact .infer

instance condition [Alike k n S S'] [Taken t] : Agrees k t S.condition S'.condition false := by
  dsimp only [PhraseScan.condition]
  exact .infer

instance conditions [Alike k n S S'] : Agrees k t S.conditions S'.conditions false := by
  dsimp only [PhraseScan.conditions]
  exact .infer

instance skipConditions [Alike k n S S'] : Agrees k t S.skipConditions S'.skipConditions false := by
  dsimp only [PhraseScan.skipConditions]
  exact .infer

/-! ## Types -/

instance convention : Agrees k t convention convention false := by
  dsimp only [Marker.convention]
  exact .infer

instance variadic : Agrees k t PhraseScan.variadic PhraseScan.variadic true := by
  dsimp only [PhraseScan.variadic]
  exact .infer

instance namedType {first : Bool} [Alike k n S S'] [Taken t] :
    Agrees k t (S.namedType first) (S'.namedType first) false := by
  dsimp only [PhraseScan.namedType]
  exact .infer

instance parameterTypes [Alike k n S S'] [Taken t] : Agrees k t S.parameterTypes S'.parameterTypes false := by
  dsimp only [PhraseScan.parameterTypes]
  exact .infer

instance functionType [Alike k n S S'] : Agrees k t S.functionType S'.functionType true := by
  dsimp only [PhraseScan.functionType]
  exact .infer

instance parenthesized [Alike k n S S'] [Taken t] : Agrees k t S.parenthesized S'.parenthesized false := by
  dsimp only [PhraseScan.parenthesized]
  exact .infer

instance addedBounds [Alike k n S S'] : Agrees k t S.addedBounds S'.addedBounds false := by
  dsimp only [PhraseScan.addedBounds]
  exact .infer

instance behindParentheses {plus : Bool} {inside : Parenthesized} [Alike k n S S'] :
    Agrees k t (S.behindParentheses plus inside) (S'.behindParentheses plus inside) false := by
  cases inside <;> dsimp only [PhraseScan.behindParentheses] <;> exact .infer

instance parenthesizedType {plus : Bool} [Alike k n S S'] :
    Agrees k t (S.parenthesizedType plus) (S'.parenthesizedType plus) true := by
  dsimp only [PhraseScan.parenthesizedType]
  exact .infer

instance pathType {plus quantified : Bool} [Alike k n S S'] :
    Agrees k t (S.pathType plus quantified) (S'.pathType plus quantified) true := by
  dsimp only [PhraseScan.pathType]
  exact .infer

instance arrayType [Alike k n S S'] : Agrees k t S.arrayType S'.arrayType true := by
  dsimp only [PhraseScan.arrayType]
  exact .infer

instance unquantifiedType {plus quantified : Bool} [Alike k n S S'] [Reaches t (.bound ⟨false, false⟩) n]
    [Reaches t (.bound ⟨true, true⟩) n] :
    Agrees k t (S.unquantifiedType plus quantified) (S'.unquantifiedType plus quantified) false := by
  dsimp only [PhraseScan.unquantifiedType]
  exact .infer

instance type {plus : Bool} [Alike k n S S'] [Reaches t (.bound ⟨false, false⟩) n]
    [Reaches t (.bound ⟨true, true⟩) n] : Agrees k t (S.type plus) (S'.type plus) false := by
  dsimp only [PhraseScan.type]
  exact .infer

end Dimensional.Marker.Agrees
