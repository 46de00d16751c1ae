import ContractTree.Token.Basic
import ContractTree.Tree.Attribute
import ContractTree.Tree.Slot

namespace ContractTree

/-!
# Declarations

Source units, directives, contracts and what contracts declare.  The type of the
children is a parameter: a declaration says which children it has and in which
places, and a tree puts nodes there.
-/

/-- One name that an import directive brings in, with the name it gets. -/
structure SymbolAlias (α : Type) where
  foreign : α
  localName : Option String
  deriving DecidableEq, Repr

namespace SymbolAlias

variable {α β : Type}

def map (f : α → β) (symbol : SymbolAlias α) : SymbolAlias β :=
  ⟨f symbol.foreign, symbol.localName⟩

/-- A list of aliases is determined by its outline and the names it brings in. -/
theorem eq_of_map_eq {f : α → β} {first second : List (SymbolAlias α)}
    (outline : first.map (map f) = second.map (map f))
    (same : first.map (·.foreign) = second.map (·.foreign)) : first = second := by
  induction first generalizing second with
  | nil => simpa using outline
  | cons head rest ih =>
    cases second with
    | nil => simp at outline
    | cons head' rest' =>
      simp only [List.map_cons, List.cons.injEq] at outline same
      have sameName := congrArg SymbolAlias.localName outline.1
      have sameHead : head = head' := by
        cases head
        cases head'
        simp_all [map]
      rw [sameHead, ih outline.2 same.2]

theorem sizeOf_foreign_le [SizeOf α] (aliases : List (SymbolAlias α)) :
    sizeOf (aliases.map (·.foreign)) ≤ sizeOf aliases := by
  induction aliases with
  | nil => exact Nat.le_refl _
  | cons head rest ih =>
    cases head
    simp only [List.map_cons, List.cons.sizeOf_spec, mk.sizeOf_spec] at ih ⊢
    omega

end SymbolAlias

structure ContractDefinition (α : Type) where
  name : String
  documentation : Option String
  baseContracts : List α
  members : List α
  kind : ContractKind
  deriving DecidableEq, Repr

structure FunctionDefinition (α : Type) where
  name : String
  visibility : Visibility
  isConstructor : Bool
  documentation : Option String
  parameters : α
  isDeclaredConst : Bool
  modifiers : List α
  returnParameters : α
  isPayable : Bool
  /-- Missing only if the function is not implemented. -/
  body : Option α
  deriving DecidableEq, Repr

/-- A state variable, a parameter, a member of a struct or a local variable. -/
structure VariableDeclaration (α : Type) where
  /-- Missing if the type is to be inferred. -/
  typeName : Option α
  name : String
  value : Option α
  visibility : Visibility
  isStateVariable : Bool
  isIndexed : Bool
  isConstant : Bool
  storageLocation : StorageLocation
  deriving DecidableEq, Repr

inductive Declaration (α : Type) where
  | sourceUnit (absolutePath : Option String) (nodes : List α)
  /-- Each literal comes with the token that it is read as. -/
  | pragmaDirective (tokens : List Token) (literals : List String)
  /-- The alias of the unit is empty if it has none. -/
  | importDirective (path unitAlias : String) (symbolAliases : List (SymbolAlias α))
  | contractDefinition (contract : ContractDefinition α)
  | inheritanceSpecifier (baseName : α) (arguments : List α)
  /-- Without a type the library is used for every type. -/
  | usingForDirective (libraryName : α) (typeName : Option α)
  | structDefinition (name : String) (members : List α)
  | enumDefinition (name : String) (members : List α)
  | enumValue (name : String)
  | parameterList (parameters : List α)
  | functionDefinition (function : FunctionDefinition α)
  | variableDeclaration (declared : VariableDeclaration α)
  | modifierDefinition (name : String) (documentation : Option String) (parameters body : α)
  | modifierInvocation (name : α) (arguments : List α)
  | eventDefinition (name : String) (documentation : Option String) (parameters : α)
      (isAnonymous : Bool)
  deriving DecidableEq, Repr

namespace Declaration

variable {α β : Type}

def kind : Declaration α → NodeKind
  | sourceUnit .. => .sourceUnit
  | pragmaDirective .. => .pragmaDirective
  | importDirective .. => .importDirective
  | contractDefinition .. => .contractDefinition
  | inheritanceSpecifier .. => .inheritanceSpecifier
  | usingForDirective .. => .usingForDirective
  | structDefinition .. => .structDefinition
  | enumDefinition .. => .enumDefinition
  | enumValue .. => .enumValue
  | parameterList .. => .parameterList
  | functionDefinition .. => .functionDefinition
  | variableDeclaration .. => .variableDeclaration
  | modifierDefinition .. => .modifierDefinition
  | modifierInvocation .. => .modifierInvocation
  | eventDefinition .. => .eventDefinition

/-- The places of a declaration in the order of traversal.  The parameters and the
results of a function come before its modifiers. -/
def parts : Declaration α → List (Part α)
  | sourceUnit _ nodes => [⟨"nodes", .anyNode, .many nodes⟩]
  | pragmaDirective _ _ => []
  | importDirective _ _ aliases =>
    [⟨"symbolAliases", .identifier, .many (aliases.map (·.foreign))⟩]
  | contractDefinition contract =>
    [⟨"baseContracts", .inheritanceSpecifier, .many contract.baseContracts⟩,
      ⟨"nodes", .anyNode, .many contract.members⟩]
  | inheritanceSpecifier baseName arguments =>
    [⟨"baseName", .userDefinedTypeName, .one baseName⟩,
      ⟨"arguments", .expression, .many arguments⟩]
  | usingForDirective libraryName typeName =>
    [⟨"libraryName", .userDefinedTypeName, .one libraryName⟩,
      ⟨"typeName", .typeName, .maybe typeName⟩]
  | structDefinition _ members => [⟨"members", .variableDeclaration, .many members⟩]
  | enumDefinition _ members => [⟨"members", .enumValue, .many members⟩]
  | enumValue _ => []
  | parameterList parameters => [⟨"parameters", .variableDeclaration, .many parameters⟩]
  | functionDefinition function =>
    [⟨"parameters", .parameterList, .one function.parameters⟩,
      ⟨"returnParameters", .parameterList, .one function.returnParameters⟩,
      ⟨"modifiers", .modifierInvocation, .many function.modifiers⟩,
      ⟨"body", .block, .maybe function.body⟩]
  | variableDeclaration declared =>
    [⟨"typeName", .typeName, .maybe declared.typeName⟩,
      ⟨"value", .expression, .maybe declared.value⟩]
  | modifierDefinition _ _ parameters body =>
    [⟨"parameters", .parameterList, .one parameters⟩, ⟨"body", .block, .one body⟩]
  | modifierInvocation name arguments =>
    [⟨"modifierName", .identifier, .one name⟩, ⟨"arguments", .expression, .many arguments⟩]
  | eventDefinition _ _ parameters _ => [⟨"parameters", .parameterList, .one parameters⟩]

def map (f : α → β) : Declaration α → Declaration β
  | sourceUnit absolutePath nodes => sourceUnit absolutePath (nodes.map f)
  | pragmaDirective tokens literals => pragmaDirective tokens literals
  | importDirective path unitAlias aliases =>
    importDirective path unitAlias (aliases.map (SymbolAlias.map f))
  | contractDefinition ⟨name, documentation, baseContracts, members, kind⟩ =>
    contractDefinition ⟨name, documentation, baseContracts.map f, members.map f, kind⟩
  | inheritanceSpecifier baseName arguments =>
    inheritanceSpecifier (f baseName) (arguments.map f)
  | usingForDirective libraryName typeName =>
    usingForDirective (f libraryName) (typeName.map f)
  | structDefinition name members => structDefinition name (members.map f)
  | enumDefinition name members => enumDefinition name (members.map f)
  | enumValue name => enumValue name
  | parameterList parameters => parameterList (parameters.map f)
  | functionDefinition ⟨name, visibility, isConstructor, documentation, parameters,
      isDeclaredConst, modifiers, returnParameters, isPayable, body⟩ =>
    functionDefinition ⟨name, visibility, isConstructor, documentation, f parameters,
      isDeclaredConst, modifiers.map f, f returnParameters, isPayable, body.map f⟩
  | variableDeclaration ⟨typeName, name, value, visibility, isStateVariable, isIndexed,
      isConstant, storageLocation⟩ =>
    variableDeclaration ⟨typeName.map f, name, value.map f, visibility, isStateVariable,
      isIndexed, isConstant, storageLocation⟩
  | modifierDefinition name documentation parameters body =>
    modifierDefinition name documentation (f parameters) (f body)
  | modifierInvocation name arguments => modifierInvocation (f name) (arguments.map f)
  | eventDefinition name documentation parameters isAnonymous =>
    eventDefinition name documentation (f parameters) isAnonymous

theorem kind_map (f : α → β) (shape : Declaration α) : (shape.map f).kind = shape.kind := by
  cases shape <;> rfl

theorem parts_map (f : α → β) (shape : Declaration α) :
    (shape.map f).parts = shape.parts.map (Part.map f) := by
  cases shape <;>
    simp [map, parts, Part.map, Slot.map, SymbolAlias.map, Function.comp_def]

theorem sizeOf_slot_le [SizeOf α] (shape : Declaration α) :
    ∀ part ∈ shape.parts, sizeOf part.slot ≤ sizeOf shape := by
  cases shape with
  | importDirective path unitAlias aliases =>
    have smaller := SymbolAlias.sizeOf_foreign_le aliases
    simp [parts]
    omega
  | contractDefinition contract =>
    cases contract
    simp [parts]
    omega
  | functionDefinition function =>
    cases function
    simp [parts]
    omega
  | variableDeclaration declared =>
    cases declared
    simp [parts]
    omega
  | _ => simp [parts] <;> omega

/-- A declaration is determined by its outline and the contents of its places. -/
theorem eq_of_map_eq {f : α → β} {first second : Declaration α}
    (outline : first.map f = second.map f) (same : first.parts = second.parts) :
    first = second := by
  cases first <;> cases second <;> simp only [map, reduceCtorEq] at outline
  case importDirective.importDirective =>
    simp only [importDirective.injEq] at outline
    simp only [parts, List.cons.injEq, Part.mk.injEq, Slot.many.injEq, true_and, and_true] at same
    rw [outline.1, outline.2.1, SymbolAlias.eq_of_map_eq outline.2.2 same]
  case contractDefinition.contractDefinition first second =>
    cases first
    cases second
    simp_all [parts]
  case functionDefinition.functionDefinition first second =>
    cases first
    cases second
    simp_all [parts]
  case variableDeclaration.variableDeclaration first second =>
    cases first
    cases second
    simp_all [parts]
  all_goals simp_all [parts]

end Declaration
end ContractTree
