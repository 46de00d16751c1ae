import ContractTree.Form.Declaration
import ContractTree.Proofs.Recovered.Attribute

namespace ContractTree

/-!
# Declarations are recovered

Every question of a form is answered, in the order in which the form asks.  Where
documents of another age have a property in another way, the newer way is the one
that is written, and so it is the one that decides.
-/

namespace Form

variable {id : NodeId} {location : SourceLocation} {node : Node}

/-! ## Units and directives -/

theorem recovers_sourceUnit {absolutePath : Option String} {nodes : List Node} :
    sourceUnit.Recovers ⟨id, location, .declaration (.sourceUnit absolutePath nodes)⟩ := by
  apply Yields.read .locationOrWhole
  apply Yields.read .idOrZero
  apply Yields.read (.holds .anyNode (.many nodes) (by simp))
  apply Yields.read (.children nodes (by simp))
  apply Yields.read (.text? absolutePath (by simp))
  rfl

/-- Each literal is read as the token that it comes with. -/
theorem recovers_pragmaDirective {tokens : List Token} {literals : List String}
    (scanned : literals.map Token.scan = tokens.map .ok) :
    pragmaDirective.Recovers ⟨id, location, .declaration (.pragmaDirective tokens literals)⟩ := by
  apply Yields.read .location
  apply Yields.read (.texts literals (by simp) (by decide))
  simp only [done_bind]
  apply Yields.bind (.mapM_lift (Token.map_resolve_eq_iff.2 scanned))
  apply Yields.read .id
  rfl

/-- The identifiers of the aliases are nodes, none of which is made for the import. -/
theorem recovers_importDirective {path unitAlias : String} {aliases : List (SymbolAlias Node)} :
    importDirective.Recovers
      ⟨id, location, .declaration (.importDirective path unitAlias aliases)⟩ := by
  apply Yields.read .location
  apply Yields.read .id
  apply Yields.read (.text path (by simp))
  apply Yields.read (.text? (some unitAlias) (by simp))
  apply Yields.read (.aliases rfl)
  have same : SymbolAlias.map (Sum.elim (Node.bareIdentifier id location) fun node => node) ∘
      SymbolAlias.map Sum.inr = fun symbol => symbol := funext fun symbol => rfl
  simp only [done_bind, List.map_map, same, List.map_id']
  rfl

theorem recovers_contractDefinition {contract : ContractDefinition Node} :
    contractDefinition.Recovers
      ⟨id, location, .declaration (.contractDefinition contract)⟩ := by
  apply Yields.read .location
  apply Yields.read (.text contract.kind.text (by simp))
  simp only [done_bind]
  apply Yields.bind (.lift contract.kind.read_text)
  apply Yields.read .id
  apply Yields.read (.text contract.name (by simp))
  apply Yields.read (.documentation contract.documentation (by simp))
  apply Yields.read (.children contract.baseContracts (by simp))
  apply Yields.read (.children contract.members (by simp))
  rfl

theorem recovers_inheritanceSpecifier {baseName : Node} {arguments : List Node} :
    inheritanceSpecifier.Recovers
      ⟨id, location, .declaration (.inheritanceSpecifier baseName arguments)⟩ := by
  apply Yields.read .id
  apply Yields.read .location
  apply Yields.read (.child baseName (by simp))
  apply Yields.read (.children arguments (by simp))
  rfl

theorem recovers_usingForDirective {libraryName : Node} {typeName : Option Node} :
    usingForDirective.Recovers
      ⟨id, location, .declaration (.usingForDirective libraryName typeName)⟩ := by
  apply Yields.read .id
  apply Yields.read .location
  apply Yields.read (.child libraryName (by simp))
  apply Yields.read (.child? typeName (by simp))
  rfl

/-! ## Members of contracts -/

theorem recovers_structDefinition {name : String} {members : List Node} :
    structDefinition.Recovers ⟨id, location, .declaration (.structDefinition name members)⟩ := by
  apply Yields.read .id
  apply Yields.read .location
  apply Yields.read (.text name (by simp))
  apply Yields.read (.children members (by simp))
  rfl

theorem recovers_enumDefinition {name : String} {members : List Node} :
    enumDefinition.Recovers ⟨id, location, .declaration (.enumDefinition name members)⟩ := by
  apply Yields.read .id
  apply Yields.read .location
  apply Yields.read (.text name (by simp))
  apply Yields.read (.children members (by simp))
  rfl

theorem recovers_enumValue {name : String} :
    enumValue.Recovers ⟨id, location, .declaration (.enumValue name)⟩ := by
  apply Yields.read .id
  apply Yields.read .location
  apply Yields.read (.text name (by simp))
  rfl

theorem recovers_parameterList {parameters : List Node} :
    parameterList.Recovers ⟨id, location, .declaration (.parameterList parameters)⟩ := by
  apply Yields.read .id
  apply Yields.read .location
  apply Yields.read (.children parameters (by simp))
  rfl

theorem yields_isConstant (flag : Bool)
    (field : ("constant", some (.bool flag)) ∈ node.shape.scalars) :
    isConstant.Yields node.Says flag := by
  apply Yields.read (.flag? (some flag) field)
  rfl

theorem recovers_variableDeclaration {declared : VariableDeclaration Node} :
    variableDeclaration.Recovers
      ⟨id, location, .declaration (.variableDeclaration declared)⟩ := by
  apply Yields.read .location
  apply Yields.read (.child? declared.typeName (by simp))
  apply Yields.read (.child? declared.value (by simp))
  simp only [done_bind]
  apply Yields.bind (yields_isConstant declared.isConstant (by simp))
  apply Yields.read .id
  apply Yields.read (.text declared.name (by simp))
  simp only [done_bind]
  apply Yields.bind (yields_visibility declared.visibility (by simp))
  apply Yields.read (.flag? (some declared.isStateVariable) (by simp))
  apply Yields.read (.flag? (some declared.isIndexed) (by simp))
  simp only [done_bind]
  apply Yields.bind (yields_storageLocation declared.storageLocation (by simp))
  rfl

/-! ## Functions, modifiers and events -/

theorem yields_isConstructor (flag : Bool)
    (field : ("isConstructor", some (.bool flag)) ∈ node.shape.scalars) :
    isConstructor.Yields node.Says flag := by
  apply Yields.read (.flag? (some flag) field)
  rfl

/-- A function without a body says that it is not implemented. -/
theorem yields_functionBody (body : Option Node)
    (implemented : ("implemented", if body.isSome then none else some (.bool false)) ∈
      node.shape.scalars)
    (part : ⟨"body", .block, .maybe body⟩ ∈ node.shape.plainParts) :
    functionBody.Yields node.Says body := by
  cases body with
  | some body =>
    apply Yields.read (.flag? none implemented)
    apply Yields.read (.present body part)
    rfl
  | none =>
    apply Yields.read (.flag? (some false) implemented)
    rfl

theorem recovers_functionDefinition {function : FunctionDefinition Node} :
    functionDefinition.Recovers
      ⟨id, location, .declaration (.functionDefinition function)⟩ := by
  apply Yields.read .location
  apply Yields.read .id
  simp only [done_bind]
  apply Yields.bind (yields_isConstructor function.isConstructor (by simp))
  apply Yields.bind (yields_mutability function.isDeclaredConst function.isPayable (by simp) (by simp)
    (by simp))
  apply Yields.read (.child function.parameters (by simp))
  apply Yields.read (.child function.returnParameters (by simp))
  apply Yields.read (.children function.modifiers (by simp))
  simp only [done_bind]
  apply Yields.bind (yields_functionBody function.body (by simp) (by simp))
  apply Yields.read (.text function.name (by simp))
  simp only [done_bind]
  apply Yields.bind (yields_visibility function.visibility (by simp))
  apply Yields.read (.documentation function.documentation (by simp))
  rfl

theorem recovers_modifierDefinition {name : String} {documentation : Option String}
    {parameters body : Node} :
    modifierDefinition.Recovers
      ⟨id, location, .declaration (.modifierDefinition name documentation parameters body)⟩ := by
  apply Yields.read .id
  apply Yields.read .location
  apply Yields.read (.text name (by simp))
  apply Yields.read (.documentation documentation (by simp))
  apply Yields.read (.child parameters (by simp))
  apply Yields.read (.child body (by simp))
  rfl

theorem recovers_modifierInvocation {name : Node} {arguments : List Node} :
    modifierInvocation.Recovers
      ⟨id, location, .declaration (.modifierInvocation name arguments)⟩ := by
  apply Yields.read .location
  apply Yields.read .id
  apply Yields.read (.given name (by simp))
  apply Yields.read (.children arguments (by simp))
  rfl

theorem recovers_eventDefinition {name : String} {documentation : Option String}
    {parameters : Node} {isAnonymous : Bool} :
    eventDefinition.Recovers ⟨id, location,
      .declaration (.eventDefinition name documentation parameters isAnonymous)⟩ := by
  apply Yields.read .id
  apply Yields.read .location
  apply Yields.read (.text name (by simp))
  apply Yields.read (.documentation documentation (by simp))
  apply Yields.read (.child parameters (by simp))
  apply Yields.read (.flag? (some isAnonymous) (by simp))
  rfl

end Form
end ContractTree
