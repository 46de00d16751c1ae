import ContractTree.Form.Declaration
import ContractTree.Proofs.Form.Represents
import ContractTree.Proofs.Represented.Attribute

namespace ContractTree

/-!
# Declarations represent their document nodes

Four declarations have places that their kind alone does not settle: the members of
a source unit have two keys, an alias and a modifier may be given by a bare name, and
a function that is not implemented has no body.
-/

namespace Form

variable {settings : Settings} {depth : Nat} {document : DocumentNode}

/-! ## Units and directives -/

theorem represent_sourceUnit (kind : document.kind = .sourceUnit) :
    sourceUnit.Represent settings depth document := by
  intro location placed id written hasNodes holds
  have key : (if hasNodes then "nodes" else "children") = document.membersKey := by
    rw [DocumentNode.membersKey, holds]
  simp only [done_bind, key]
  intro nodes stand absolutePath _
  have places : document.places settings.layout = document.under document.membersKey := by
    rw [DocumentNode.places, kind]
  refine ⟨kind.symm, written kind, placed kind,
    ⟨DocumentNode.within_of_location? (placed kind), trivial, ?_⟩, ?_, ?_⟩
  · intro part member child inside
    cases List.mem_singleton.1 member
    exact stand.accepted child inside
  · rw [places, stand.nodes_eq]
    exact (List.append_nil _).symm
  · simp [places, Field.places]

theorem represent_pragmaDirective (kind : document.kind = .pragmaDirective) :
    pragmaDirective.Represent settings depth document := by
  intro location placed literals _
  simp only [done_bind]
  refine ensures_bind.2 (ensures_mapM_lift.2 ?_)
  intro tokens resolved id written
  have scanned := Token.map_resolve_eq_iff.1 (mapM_eq_ok_iff.1 resolved)
  refine .of_parts kind.symm written placed scanned trivial ?_ rfl
  rw [DocumentNode.places, kind]
  rfl

/-- The identifiers of an import are those of its aliases, a bare name standing where
the import stands. -/
theorem represent_importDirective (kind : document.kind = .importDirective) :
    importDirective.Represent settings depth document := by
  intro location placed id written path _ unitAlias _ aliases stand
  have places : document.places settings.layout = document.aliasPlaces := by
    rw [DocumentNode.places, kind]
  have children : ∀ symbols : List (SymbolAlias (String ⊕ Node)),
      (symbols.map (SymbolAlias.map (Journal.aliasNode id location))).map (·.foreign) =
        symbols.map fun symbol => Journal.aliasNode id location symbol.foreign := by
    intro symbols
    rw [List.map_map]
    rfl
  refine ⟨kind.symm, written, placed, ⟨DocumentNode.within_of_location? placed, trivial, ?_⟩,
    ?_, ?_⟩
  · intro part member child inside
    cases List.mem_singleton.1 member
    have listed : child ∈ aliases.map fun symbol => Journal.aliasNode id location symbol.foreign :=
      children aliases ▸ inside
    rcases List.mem_map.1 listed with ⟨symbol, given, rfl⟩
    cases foreign : symbol.foreign with
    | inl name => rfl
    | inr node => exact stand.2 symbol given node foreign
  · rw [places]
    refine (stand.1 id location).trans ?_
    exact ((List.append_nil _).trans (children aliases)).symm
  · simp [places, Field.places]

theorem represent_contractDefinition (kind : document.kind = .contractDefinition) :
    contractDefinition.Represent settings depth document := by
  intro location placed word _
  apply Ensures.lift_bind
  intro sort read id written name _ documentation _ baseContracts basesStand members membersStand
  refine .of_parts kind.symm written placed trivial ⟨basesStand, membersStand⟩ ?_ rfl
  rw [DocumentNode.places, kind]
  rfl

theorem represent_inheritanceSpecifier (kind : document.kind = .inheritanceSpecifier) :
    inheritanceSpecifier.Represent settings depth document := by
  intro id written location placed baseName baseStands arguments argumentsStand
  refine .of_parts kind.symm written placed trivial ⟨baseStands, argumentsStand⟩ ?_ rfl
  rw [DocumentNode.places, kind]
  rfl

theorem represent_usingForDirective (kind : document.kind = .usingForDirective) :
    usingForDirective.Represent settings depth document := by
  intro id written location placed libraryName libraryStands typeName typeStands
  refine .of_parts kind.symm written placed trivial ⟨libraryStands, typeStands.1⟩ ?_ rfl
  rw [DocumentNode.places, kind]
  rfl

/-! ## Members of contracts -/

theorem represent_structDefinition (kind : document.kind = .structDefinition) :
    structDefinition.Represent settings depth document := by
  intro id written location placed name _ members stand
  refine .of_parts kind.symm written placed trivial stand ?_ rfl
  rw [DocumentNode.places, kind]
  rfl

theorem represent_enumDefinition (kind : document.kind = .enumDefinition) :
    enumDefinition.Represent settings depth document := by
  intro id written location placed name _ members stand
  refine .of_parts kind.symm written placed trivial stand ?_ rfl
  rw [DocumentNode.places, kind]
  rfl

theorem represent_enumValue (kind : document.kind = .enumValue) :
    enumValue.Represent settings depth document := by
  intro id written location placed name _
  refine .of_parts kind.symm written placed trivial trivial ?_ rfl
  rw [DocumentNode.places, kind]
  rfl

theorem represent_parameterList (kind : document.kind = .parameterList) :
    parameterList.Represent settings depth document := by
  intro id written location placed parameters stand
  refine .of_parts kind.symm written placed trivial stand ?_ rfl
  rw [DocumentNode.places, kind]
  rfl

theorem scalar_isConstant : isConstant.Scalar settings depth document fun _ => True := by
  intro flag _
  cases flag with
  | some answer => exact ⟨trivial, rfl⟩
  | none =>
    intro word _
    exact ⟨trivial, rfl⟩

theorem represent_variableDeclaration (kind : document.kind = .variableDeclaration) :
    variableDeclaration.Represent settings depth document := by
  intro location placed typeName typeStands value valueStands
  simp only [done_bind]
  apply Ensures.bind scalar_isConstant
  rintro isConstant constantReads ⟨-, constantQuiet⟩ id written name _
  simp only [done_bind]
  apply Ensures.bind scalar_visibility
  rintro visibility visibilityReads ⟨-, visibilityQuiet⟩ isStateVariable _ isIndexed _
  simp only [done_bind]
  apply Ensures.bind scalar_storageLocation
  rintro storageLocation storageReads ⟨-, storageQuiet⟩
  refine .of_parts kind.symm written placed trivial ⟨typeStands.1, valueStands.1⟩ ?_ ?_
  · rw [DocumentNode.places, kind]
    rfl
  · simp [constantQuiet, visibilityQuiet, storageQuiet, Field.places, declare, Shape.parts,
      Declaration.parts]

theorem scalar_isConstructor : isConstructor.Scalar settings depth document fun _ => True := by
  intro flag _
  cases flag with
  | some answer => exact ⟨trivial, rfl⟩
  | none =>
    intro word _
    exact ⟨trivial, rfl⟩

/-- The place of a function's body, if the function has one. -/
def bodyPlaces (document : DocumentNode) (layout : FieldLayout) : List Place :=
  if document.isUnimplemented layout then [] else document.under "body"

/-- A function that says it is not implemented is not asked for its body. -/
theorem functionBody_ensures :
    functionBody.Ensures (Field.Faithful settings depth document) fun body reads =>
      (document.placesRead reads = bodyPlaces document settings.layout ∧
        ∀ node, body = some node → Category.block.accepts node.kind = true) ∧
      ∀ id location, (bodyPlaces document settings.layout).flatMap
        (Place.nodes settings depth id location) = body.toList := by
  intro implemented stands
  have scalar : document.scalar? settings.layout "implemented" = implemented.map .bool := stands
  have unimplemented : document.isUnimplemented settings.layout = (implemented == some false) := by
    unfold DocumentNode.isUnimplemented
    rw [scalar]
    rcases implemented with _ | _ | _ <;> rfl
  rcases implemented with _ | _ | _
  case some.false =>
    have nowhere : bodyPlaces document settings.layout = [] := if_pos unimplemented
    rw [nowhere]
    exact ⟨⟨rfl, fun _ impossible => nomatch impossible⟩, fun _ _ => rfl⟩
  all_goals
    have there : bodyPlaces document settings.layout = document.under "body" :=
      if_neg (Bool.eq_false_iff.1 unimplemented)
    rw [there]
    intro body bodyStands
    refine ⟨⟨List.append_nil _, ?_⟩, bodyStands.nodes_eq⟩
    rintro _ ⟨⟩
    exact bodyStands.accepted body (List.mem_singleton_self body)

theorem represent_functionDefinition (kind : document.kind = .functionDefinition) :
    functionDefinition.Represent settings depth document := by
  intro location placed id written
  simp only [done_bind]
  apply Ensures.bind scalar_isConstructor
  rintro isConstructor constructorReads ⟨-, constructorQuiet⟩
  apply Ensures.bind scalar_mutability
  rintro ⟨isDeclaredConst, isPayable⟩ mutabilityReads ⟨-, mutabilityQuiet⟩ parameters
    parametersStand returnParameters returnsStand modifiers modifiersStand
  simp only [done_bind]
  apply Ensures.bind functionBody_ensures
  rintro body bodyReads ⟨⟨bodyAsked, bodyAccepted⟩, bodyNodes⟩ name _
  simp only [done_bind]
  apply Ensures.bind scalar_visibility
  rintro visibility visibilityReads ⟨-, visibilityQuiet⟩ documentation _
  have places : document.places settings.layout =
      document.under "parameters" ++ document.under "returnParameters" ++
        document.under "modifiers" ++ bodyPlaces document settings.layout := by
    rw [DocumentNode.places, kind]
    rfl
  refine ⟨kind.symm, written, placed, ⟨DocumentNode.within_of_location? placed, trivial, ?_⟩,
    ?_, ?_⟩
  · intro part member child inside
    simp only [declare, Shape.parts, Declaration.parts, List.mem_cons, List.not_mem_nil,
      or_false] at member
    rcases member with rfl | rfl | rfl | rfl
    · exact parametersStand.accepted child inside
    · exact returnsStand.accepted child inside
    · exact modifiersStand.accepted child inside
    · exact bodyAccepted child (Option.mem_toList.1 inside)
  · rw [places, List.flatMap_append, List.flatMap_append, List.flatMap_append,
      parametersStand.nodes_eq, returnsStand.nodes_eq, modifiersStand.nodes_eq, bodyNodes]
    simp [Node.children, Shape.children, declare, Shape.parts, Declaration.parts, Part.children,
      Slot.children]
  · simp [places, constructorQuiet, mutabilityQuiet, bodyAsked, visibilityQuiet, Field.places]

/-- The name of a modifier is an identifier, whichever way it is given. -/
theorem modifierName_ensures (id : NodeId) (location : SourceLocation) :
    (modifierName id location).Ensures (Field.Faithful settings depth document) fun name reads =>
      ((document.placesRead reads).filter Place.isConverted =
          (document.modifierPlaces settings.layout).filter Place.isConverted ∧
        Category.identifier.accepts name.kind = true) ∧
      (document.modifierPlaces settings.layout).flatMap (Place.nodes settings depth id location) =
        [name] := by
  intro given stands
  cases given with
  | some name =>
    have places : document.modifierPlaces settings.layout = document.under "modifierName" := by
      cases found : document.structural? "modifierName" with
      | some value =>
        rw [DocumentNode.under_of_object found (stands.2.2 value found)]
        unfold DocumentNode.modifierPlaces
        rw [found]
      | none =>
        have nodes := stands.1.nodes_eq id location
        rw [DocumentNode.under_of_none found] at nodes
        cases nodes
    rw [places]
    refine ⟨⟨?_, stands.1.accepted name (List.mem_singleton_self name)⟩,
      stands.1.nodes_eq id location⟩
    simp [Field.places]
  | none =>
    have missing : document.structural? "modifierName" = none := stands.2.1 rfl
    intro name spelt
    have places : document.modifierPlaces settings.layout = [.bareName name] := by
      unfold DocumentNode.modifierPlaces
      have found : document.scalar? settings.layout "name" = some (.str name) := spelt
      rw [missing, found]
    rw [places]
    refine ⟨⟨?_, rfl⟩, rfl⟩
    simp [Field.places, DocumentNode.under_of_none missing, Place.isConverted, Place.value?]

theorem represent_modifierInvocation (kind : document.kind = .modifierInvocation) :
    modifierInvocation.Represent settings depth document := by
  intro location placed id written
  simp only [done_bind]
  apply Ensures.bind (modifierName_ensures id location)
  rintro name nameReads ⟨⟨nameAsked, nameAccepted⟩, nameNodes⟩ arguments argumentsStand
  have places : document.places settings.layout =
      document.modifierPlaces settings.layout ++ document.under "arguments" := by
    rw [DocumentNode.places, kind]
  refine ⟨kind.symm, written, placed, ⟨DocumentNode.within_of_location? placed, trivial, ?_⟩,
    ?_, ?_⟩
  · intro part member child inside
    simp only [declare, Shape.parts, Declaration.parts, List.mem_cons, List.not_mem_nil,
      or_false] at member
    rcases member with rfl | rfl
    · cases List.mem_singleton.1 inside
      exact nameAccepted
    · exact argumentsStand.accepted child inside
  · rw [places, List.flatMap_append, argumentsStand.nodes_eq]
    exact congrArg₂ (· ++ ·) nameNodes (List.append_nil arguments).symm
  · simp [places, nameAsked, Field.places]

theorem represent_eventDefinition (kind : document.kind = .eventDefinition) :
    eventDefinition.Represent settings depth document := by
  intro id written location placed name _ documentation _ parameters stands isAnonymous _
  refine .of_parts kind.symm written placed trivial stands ?_ rfl
  rw [DocumentNode.places, kind]
  rfl

theorem represent_modifierDefinition (kind : document.kind = .modifierDefinition) :
    modifierDefinition.Represent settings depth document := by
  intro id written location placed name _ documentation _ parameters parametersStand body
    bodyStands
  refine .of_parts kind.symm written placed trivial ⟨parametersStand, bodyStands⟩ ?_ rfl
  rw [DocumentNode.places, kind]
  rfl

end Form
end ContractTree
