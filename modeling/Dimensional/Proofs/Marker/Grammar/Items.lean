import Dimensional.Proofs.Marker.Grammar.Expressions

/-! # Items -/

namespace Dimensional.Marker.Agrees

-- The instance for a long scan is as large as the scan.
set_option synthInstance.maxSize 4000

variable {k n : ℕ} {t : Bool} {S S' : PhraseScan}

/-! ## Declared types -/

instance visibility : Agrees k t visibility visibility false := by
  dsimp only [Marker.visibility]
  exact .infer

instance skipVisibility : Agrees k t skipVisibility skipVisibility false := by
  dsimp only [Marker.skipVisibility]
  exact .infer

instance expectDataKind : Agrees k t expectDataKind expectDataKind false := by
  dsimp only [Marker.expectDataKind]
  refine .chain fun _ => ?_
  split <;> exact .infer

instance namedField [Alike k n S S'] [Taken t] : Agrees k t S.namedField S'.namedField false := by
  dsimp only [PhraseScan.namedField]
  exact .infer

instance fields [Alike k n S S'] : Agrees k t S.fields S'.fields true := by
  dsimp only [PhraseScan.fields]
  exact .infer

instance unnamedField [Alike k n S S'] [Taken t] : Agrees k t S.unnamedField S'.unnamedField false := by
  dsimp only [PhraseScan.unnamedField]
  exact .infer

instance unnamedFields [Alike k n S S'] : Agrees k t S.unnamedFields S'.unnamedFields true := by
  dsimp only [PhraseScan.unnamedFields]
  exact .infer

instance variant [Alike k n S S'] : Agrees k t S.variant S'.variant true := by
  dsimp only [PhraseScan.variant]
  exact .infer

instance structureFields [Alike k n S S'] [Taken t] :
    Agrees k t S.structureFields S'.structureFields false := by
  dsimp only [PhraseScan.structureFields]
  exact .infer

instance variants [Alike k n S S'] : Agrees k t S.variants S'.variants true := by
  dsimp only [PhraseScan.variants]
  exact .infer

instance unionFields [Alike k n S S'] [Taken t] : Agrees k t S.unionFields S'.unionFields false := by
  dsimp only [PhraseScan.unionFields]
  exact .infer

instance content {kind : DataKind} [Alike k n S S'] [Taken t] :
    Agrees k t (S.content kind) (S'.content kind) false := by
  cases kind <;> dsimp only [PhraseScan.content] <;> exact .infer

instance declared {kind : DataKind} [Alike k n S S'] :
    Agrees k t (S.declared kind) (S'.declared kind) true := by
  dsimp only [PhraseScan.declared]
  exact .infer

/-! ## Functions -/

instance receiver [Alike k n S S'] : Agrees k t S.receiver S'.receiver true := by
  dsimp only [PhraseScan.receiver]
  exact .infer

instance typedParameter [Alike k n S S'] [Taken t] : Agrees k t S.typedParameter S'.typedParameter false := by
  dsimp only [PhraseScan.typedParameter]
  exact .infer

instance commaOrEnd : Agrees k t PhraseScan.commaOrEnd PhraseScan.commaOrEnd false := by
  dsimp only [PhraseScan.commaOrEnd]
  exact .infer

instance functionParameter {before : PhraseScan.Before} [Alike k n S S'] [Taken t] :
    Agrees k t (S.functionParameter before) (S'.functionParameter before) false := by
  cases before <;> dsimp only [PhraseScan.functionParameter] <;> exact .infer

instance functionParameters [Alike k n S S'] [Taken t] :
    Agrees k t S.functionParameters S'.functionParameters false := by
  dsimp only [PhraseScan.functionParameters]
  exact .infer

instance signature {foreign : Bool} [Alike k n S S'] :
    Agrees k t (S.signature foreign) (S'.signature foreign) true := by
  dsimp only [PhraseScan.signature]
  exact .infer

/-! ## Imports and calls of macros -/

instance macroItem {named : Bool} :
    Agrees k t (PhraseScan.macroItem named) (PhraseScan.macroItem named) true := by
  dsimp only [PhraseScan.macroItem]
  exact .infer

instance macroDefinition : Agrees k t PhraseScan.macroDefinition PhraseScan.macroDefinition true := by
  dsimp only [PhraseScan.macroDefinition]
  exact .infer

instance imports {rooted : Bool} [Alike k n S S'] :
    Agrees k t (S.imports rooted) (S'.imports rooted) false := by
  dsimp only [PhraseScan.imports]
  exact .infer

instance importItem [Alike k n S S'] : Agrees k t S.importItem S'.importItem true := by
  dsimp only [PhraseScan.importItem]
  exact .infer

instance externalImport : Agrees k t PhraseScan.externalImport PhraseScan.externalImport true := by
  dsimp only [PhraseScan.externalImport]
  exact .infer

/-! ## Values and types -/

instance staticItem [Alike k n S S'] : Agrees k t S.staticItem S'.staticItem true := by
  dsimp only [PhraseScan.staticItem]
  exact .infer

instance constantItem [Alike k n S S'] : Agrees k t S.constantItem S'.constantItem true := by
  dsimp only [PhraseScan.constantItem]
  exact .infer

instance typeItem {before behind : Bool} [Alike k n S S'] :
    Agrees k t (S.typeItem before behind) (S'.typeItem before behind) true := by
  dsimp only [PhraseScan.typeItem]
  exact .infer

/-! ## Members -/

instance members {member member' : Scan Unit} {u : Bool} [Alike k n S S'] [Agrees k true member member' u] :
    Agrees k t (S.members member) (S'.members member') true := by
  dsimp only [PhraseScan.members]
  exact .infer

instance traitFunction [Alike k n S S'] : Agrees k t S.traitFunction S'.traitFunction true := by
  dsimp only [PhraseScan.traitFunction]
  exact .infer

instance traitConstant [Alike k n S S'] : Agrees k t S.traitConstant S'.traitConstant false := by
  dsimp only [PhraseScan.traitConstant]
  exact .infer

instance traitMember [Alike k n S S'] : Agrees k t S.traitMember S'.traitMember false := by
  dsimp only [PhraseScan.traitMember]
  exact .infer

instance implementationMember [Alike k n S S'] :
    Agrees k t S.implementationMember S'.implementationMember false := by
  dsimp only [PhraseScan.implementationMember]
  exact .infer

instance foreignStatic [Alike k n S S'] : Agrees k t S.foreignStatic S'.foreignStatic true := by
  dsimp only [PhraseScan.foreignStatic]
  exact .infer

instance foreignMember [Alike k n S S'] : Agrees k t S.foreignMember S'.foreignMember false := by
  dsimp only [PhraseScan.foreignMember]
  exact .infer

/-! ## Traits, implementations and modules -/

instance traitBody [Alike k n S S'] : Agrees k t S.traitBody S'.traitBody true := by
  dsimp only [PhraseScan.traitBody]
  exact .infer

instance traitAlias [Alike k n S S'] : Agrees k t S.traitAlias S'.traitAlias true := by
  dsimp only [PhraseScan.traitAlias]
  exact .infer

instance traitItem [Alike k n S S'] : Agrees k t S.traitItem S'.traitItem true := by
  dsimp only [PhraseScan.traitItem]
  exact .infer

instance markedTrait [Alike k n S S'] : Agrees k t S.markedTrait S'.markedTrait true := by
  dsimp only [PhraseScan.markedTrait]
  exact .infer

instance implementation [Alike k n S S'] : Agrees k t S.implementation S'.implementation true := by
  dsimp only [PhraseScan.implementation]
  exact .infer

instance foreignBlock [Alike k n S S'] : Agrees k t S.foreignBlock S'.foreignBlock true := by
  dsimp only [PhraseScan.foreignBlock]
  exact .infer

instance externalItem {shown : Bool} [Alike k n S S'] :
    Agrees k t (S.externalItem shown) (S'.externalItem shown) true := by
  dsimp only [PhraseScan.externalItem]
  exact .infer

instance moduleItem [Alike k n S S'] : Agrees k t S.moduleItem S'.moduleItem true := by
  dsimp only [PhraseScan.moduleItem]
  exact .infer

instance unsafeItem {shown : Bool} [Alike k n S S'] :
    Agrees k t (S.unsafeItem shown) (S'.unsafeItem shown) true := by
  dsimp only [PhraseScan.unsafeItem]
  exact .infer

/-! ## Items -/

instance item [Alike k n S S'] : Agrees k t S.item S'.item false := by
  dsimp only [PhraseScan.item]
  exact .infer

end Dimensional.Marker.Agrees
