import ContractTree.Import.Options
import ContractTree.Tree.Traversal

namespace ContractTree

/-!
# The places of a document node

Which nodes a document holds can be told from the document alone.  A document node
has the places that its kind has, in the order in which a tree is traversed, and in
a place stands another node, or a name that is to become an identifier, or an
elementary type name of which only the type is to be kept.

Nothing is converted to find the places of a node: they are read off tags, keys and
values, and no form is filled in.
-/

/-- What stands in a place of a document node. -/
inductive Place where
  /-- A node of the tree. -/
  | node (value : Json)
  /-- An elementary type name that leaves no node in the tree. -/
  | typeOnly (value : Json)
  /-- The name of an identifier that has no node of its own. -/
  | bareName (name : String)

namespace Place

/-- The document node that is converted for a place. -/
def value? : Place → Option Json
  | node value => some value
  | typeOnly value => some value
  | bareName _ => none

/-- Whether anything is converted for a place. -/
def isConverted (place : Place) : Bool := place.value?.isSome

end Place

/-- The keys of the places that are found under one key each, in order. -/
def NodeKind.placeKeys : NodeKind → List String
  | contractDefinition => ["baseContracts", "nodes"]
  | inheritanceSpecifier => ["baseName", "arguments"]
  | usingForDirective => ["libraryName", "typeName"]
  | structDefinition | enumDefinition => ["members"]
  | parameterList => ["parameters"]
  | variableDeclaration => ["typeName", "value"]
  | modifierDefinition => ["parameters", "body"]
  | eventDefinition => ["parameters"]
  | functionTypeName => ["parameterTypes", "returnParameterTypes"]
  | mapping => ["keyType", "valueType"]
  | arrayTypeName => ["baseType", "length"]
  | block => ["statements"]
  | ifStatement => ["condition", "trueBody", "falseBody"]
  | doWhileStatement | whileStatement => ["condition", "body"]
  | returnStatement => ["expression"]
  | emitStatement => ["eventCall"]
  | variableDeclarationStatement => ["declarations", "initialValue"]
  | expressionStatement => ["expression"]
  | conditional => ["condition", "trueExpression", "falseExpression"]
  | assignment => ["leftHandSide", "rightHandSide"]
  | tupleExpression => ["components"]
  | unaryOperation => ["subExpression"]
  | binaryOperation => ["leftExpression", "rightExpression"]
  | functionCall => ["expression", "arguments"]
  | newExpression => ["typeName"]
  | memberAccess => ["expression"]
  | indexAccess => ["baseExpression", "indexExpression"]
  | _ => []

namespace DocumentNode

/-- An item of a list.  A null stands for nothing. -/
def itemPlaces (item : Json) : List Place :=
  if item.isNull then [] else [.node item]

/-- What stands under a key: a node, the items of a list, or nothing. -/
def under (document : DocumentNode) (key : String) : List Place :=
  match document.structural? key with
  | none => []
  | some (.arr items) => items.flatMap itemPlaces
  | some value => [.node value]

/-- What an alias is for. -/
def foreignPlaces : Json → List Place
  | .obj members =>
    match Members.find? members "foreign" with
    | some (.str name) => [.bareName name]
    | some value => [.node value]
    | none => []
  | _ => []

def aliasPlaces (document : DocumentNode) : List Place :=
  match document.structural? "symbolAliases" with
  | some (.arr items) => items.flatMap foreignPlaces
  | _ => []

/-- A modifier is a node or, if none stands there, a name. -/
def modifierPlaces (document : DocumentNode) (layout : FieldLayout) : List Place :=
  match document.structural? "modifierName" with
  | some value => [.node value]
  | none =>
    match document.scalar? layout "name" with
    | some (.str name) => [.bareName name]
    | _ => []

/-- A type that is given by a node. -/
def typeOnlyPlaces (document : DocumentNode) (key : String) : List Place :=
  match document.structural? key with
  | some (.obj members) => [.typeOnly (.obj members)]
  | _ => []

/-- A function says that it has no body. -/
def isUnimplemented (document : DocumentNode) (layout : FieldLayout) : Bool :=
  match document.scalar? layout "implemented" with
  | some (.bool implemented) => !implemented
  | _ => false

/-- The key of the members of a source unit. -/
def membersKey (document : DocumentNode) : String :=
  if (document.structural? "nodes").isSome then "nodes" else "children"

/-- The key of the initialization of a loop. -/
def initializationKey (document : DocumentNode) : String :=
  if (document.structural? "initializationExpression").isSome then "initializationExpression"
  else "initExpression"

/-- The places of a document node in the order of traversal. -/
def places (document : DocumentNode) (layout : FieldLayout) : List Place :=
  match document.kind with
  | .sourceUnit => document.under document.membersKey
  | .importDirective => document.aliasPlaces
  | .functionDefinition =>
    document.under "parameters" ++ document.under "returnParameters" ++
      document.under "modifiers" ++
        if document.isUnimplemented layout then [] else document.under "body"
  | .modifierInvocation => document.modifierPlaces layout ++ document.under "arguments"
  | .forStatement =>
    document.under document.initializationKey ++ document.under "condition" ++
      document.under "loopExpression" ++ document.under "body"
  | .elementaryTypeNameExpression => document.typeOnlyPlaces "typeName"
  | kind => kind.placeKeys.flatMap document.under

/-! ## What stands in a place nests less deeply -/

theorem height_lt_of_mem_under {document : DocumentNode} {key : String} {place : Place}
    (member : place ∈ document.under key) {value : Json} (converted : place.value? = some value) :
    value.height < document.height := by
  unfold under at member
  split at member
  · cases member
  · next items found =>
    rcases List.mem_flatMap.1 member with ⟨item, listed, stands⟩
    unfold itemPlaces at stands
    split at stands
    · cases stands
    · cases List.mem_singleton.1 stands
      cases converted
      exact Nat.lt_trans (Json.height_lt_of_mem_arr listed) (height_structural_lt found)
  · next found =>
    cases List.mem_singleton.1 member
    cases converted
    exact height_structural_lt found

theorem height_lt_of_mem_aliasPlaces {document : DocumentNode} {place : Place}
    (member : place ∈ document.aliasPlaces) {value : Json}
    (converted : place.value? = some value) : value.height < document.height := by
  unfold aliasPlaces at member
  split at member
  · next items found =>
    rcases List.mem_flatMap.1 member with ⟨item, listed, stands⟩
    have inside := Json.height_lt_of_mem_arr listed
    have outer := height_structural_lt found
    unfold foreignPlaces at stands
    split at stands
    · split at stands
      · cases List.mem_singleton.1 stands
        cases converted
      · next foreign =>
        cases List.mem_singleton.1 stands
        cases converted
        exact Nat.lt_trans (Members.height_lt_of_find? foreign) (Nat.lt_trans inside outer)
      · cases stands
    · cases stands
  · cases member

theorem height_lt_of_mem_modifierPlaces {document : DocumentNode} {layout : FieldLayout}
    {place : Place} (member : place ∈ document.modifierPlaces layout) {value : Json}
    (converted : place.value? = some value) : value.height < document.height := by
  unfold modifierPlaces at member
  split at member
  · next found =>
    cases List.mem_singleton.1 member
    cases converted
    exact height_structural_lt found
  · split at member
    · cases List.mem_singleton.1 member
      cases converted
    · cases member

theorem height_lt_of_mem_typeOnlyPlaces {document : DocumentNode} {key : String} {place : Place}
    (member : place ∈ document.typeOnlyPlaces key) {value : Json}
    (converted : place.value? = some value) : value.height < document.height := by
  unfold typeOnlyPlaces at member
  split at member
  · next found =>
    cases List.mem_singleton.1 member
    cases converted
    exact height_structural_lt found
  · cases member

theorem height_lt_of_mem_places {document : DocumentNode} {layout : FieldLayout} {place : Place}
    (member : place ∈ document.places layout) {value : Json}
    (converted : place.value? = some value) : value.height < document.height := by
  have inUnder : ∀ key, place ∈ document.under key → value.height < document.height :=
    fun key found => height_lt_of_mem_under found converted
  unfold places at member
  split at member
  · exact inUnder _ member
  · exact height_lt_of_mem_aliasPlaces member converted
  · rcases List.mem_append.1 member with earlier | last
    · rcases List.mem_append.1 earlier with earlier | third
      · rcases List.mem_append.1 earlier with first | second
        · exact inUnder _ first
        · exact inUnder _ second
      · exact inUnder _ third
    · split at last
      · cases last
      · exact inUnder _ last
  · rcases List.mem_append.1 member with modifier | arguments
    · exact height_lt_of_mem_modifierPlaces modifier converted
    · exact inUnder _ arguments
  · rcases List.mem_append.1 member with earlier | last
    · rcases List.mem_append.1 earlier with earlier | third
      · rcases List.mem_append.1 earlier with first | second
        · exact inUnder _ first
        · exact inUnder _ second
      · exact inUnder _ third
    · exact inUnder _ last
  · exact height_lt_of_mem_typeOnlyPlaces member converted
  · rcases List.mem_flatMap.1 member with ⟨key, _, found⟩
    exact inUnder key found

/-! ## Where only a type is kept -/

theorem not_typeOnly_of_mem_under {document : DocumentNode} {key : String} {value : Json} :
    .typeOnly value ∉ document.under key := by
  intro member
  unfold under at member
  split at member
  · cases member
  · rcases List.mem_flatMap.1 member with ⟨item, _, stands⟩
    unfold itemPlaces at stands
    split at stands
    · cases stands
    · cases List.mem_singleton.1 stands
  · cases List.mem_singleton.1 member

theorem not_typeOnly_of_mem_aliasPlaces {document : DocumentNode} {value : Json} :
    .typeOnly value ∉ document.aliasPlaces := by
  intro member
  unfold aliasPlaces at member
  split at member
  · rcases List.mem_flatMap.1 member with ⟨item, _, stands⟩
    unfold foreignPlaces at stands
    split at stands
    · split at stands
      · cases List.mem_singleton.1 stands
      · cases List.mem_singleton.1 stands
      · cases stands
    · cases stands
  · cases member

theorem not_typeOnly_of_mem_modifierPlaces {document : DocumentNode} {layout : FieldLayout}
    {value : Json} : .typeOnly value ∉ document.modifierPlaces layout := by
  intro member
  unfold modifierPlaces at member
  split at member
  · cases List.mem_singleton.1 member
  · split at member
    · cases List.mem_singleton.1 member
    · cases member

/-- Only an expression keeps no more than the type of a node. -/
theorem stands_of_typeOnly {document : DocumentNode} {layout : FieldLayout} {value : Json}
    (member : .typeOnly value ∈ document.places layout) :
    document.kind = .elementaryTypeNameExpression ∧
      document.structural? "typeName" = some value ∧ value.isObject = true := by
  unfold places at member
  split at member
  · exact absurd member not_typeOnly_of_mem_under
  · exact absurd member not_typeOnly_of_mem_aliasPlaces
  · simp only [List.mem_append, not_typeOnly_of_mem_under, false_or] at member
    split at member
    · cases member
    · exact absurd member not_typeOnly_of_mem_under
  · simp only [List.mem_append, not_typeOnly_of_mem_under, not_typeOnly_of_mem_modifierPlaces,
      or_self] at member
  · simp only [List.mem_append, not_typeOnly_of_mem_under, or_self] at member
  · next kind =>
    unfold typeOnlyPlaces at member
    split at member
    · next members found =>
      cases List.mem_singleton.1 member
      exact ⟨kind, found, rfl⟩
    · cases member
  · rcases List.mem_flatMap.1 member with ⟨key, _, found⟩
    exact absurd found not_typeOnly_of_mem_under

end DocumentNode
end ContractTree
