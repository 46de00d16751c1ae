import ContractTree.Document.Node

namespace ContractTree

/-!
# Positions

Whether a value stands for a node depends on where it stands: under some keys of a
node of a kind there are children, under others lists of children.  A position says
what is expected of a value, whatever the value is.  From the position of a value
follow those of its items and members, and so every node of a document is found from
the root without converting anything.

A change of nodes can then be carried out on all nodes of a document, the innermost
ones first, with everything between the nodes kept as it is.
-/

/-- What is expected of a value. -/
inductive Position where
  /-- Neither a node nor anything with nodes in it. -/
  | plain
  | node
  /-- A list of nodes. -/
  | nodes
  /-- An alias, which may be for a node. -/
  | symbolAlias
  /-- A list of aliases. -/
  | symbolAliases
  /-- The attributes of a node, of a kind if its tag names one. -/
  | attributes (kind : Option NodeKind)
  deriving DecidableEq, Repr

/-- The keys of a node of a kind under which nodes are expected. -/
def NodeKind.positions : NodeKind → List (String × Position)
  | sourceUnit => [("nodes", .nodes), ("children", .nodes)]
  | importDirective => [("symbolAliases", .symbolAliases)]
  | contractDefinition => [("baseContracts", .nodes), ("nodes", .nodes)]
  | inheritanceSpecifier => [("baseName", .node), ("arguments", .nodes)]
  | usingForDirective => [("libraryName", .node), ("typeName", .node)]
  | structDefinition | enumDefinition => [("members", .nodes)]
  | parameterList => [("parameters", .nodes)]
  | functionDefinition => [("parameters", .node), ("returnParameters", .node),
      ("modifiers", .nodes), ("body", .node)]
  | variableDeclaration => [("typeName", .node), ("value", .node)]
  | modifierDefinition => [("parameters", .node), ("body", .node)]
  | modifierInvocation => [("modifierName", .node), ("arguments", .nodes)]
  | eventDefinition => [("parameters", .node)]
  | functionTypeName => [("parameterTypes", .node), ("returnParameterTypes", .node)]
  | mapping => [("keyType", .node), ("valueType", .node)]
  | arrayTypeName => [("baseType", .node), ("length", .node)]
  | block => [("statements", .nodes)]
  | ifStatement => [("condition", .node), ("trueBody", .node), ("falseBody", .node)]
  | doWhileStatement | whileStatement => [("condition", .node), ("body", .node)]
  | forStatement => [("initializationExpression", .node), ("initExpression", .node),
      ("condition", .node), ("loopExpression", .node), ("body", .node)]
  | returnStatement => [("expression", .node)]
  | emitStatement => [("eventCall", .node)]
  | variableDeclarationStatement => [("declarations", .nodes), ("initialValue", .node)]
  | expressionStatement => [("expression", .node)]
  | conditional => [("condition", .node), ("trueExpression", .node), ("falseExpression", .node)]
  | assignment => [("leftHandSide", .node), ("rightHandSide", .node)]
  | tupleExpression => [("components", .nodes)]
  | unaryOperation => [("subExpression", .node)]
  | binaryOperation => [("leftExpression", .node), ("rightExpression", .node)]
  | functionCall => [("expression", .node), ("arguments", .nodes)]
  | newExpression => [("typeName", .node)]
  | memberAccess => [("expression", .node)]
  | indexAccess => [("baseExpression", .node), ("indexExpression", .node)]
  | elementaryTypeNameExpression => [("typeName", .node)]
  | pragmaDirective | enumValue | elementaryTypeName | userDefinedTypeName | inlineAssembly
  | placeholderStatement | continueStatement | breakStatement | throwStatement | identifier
  | literal => []

/-- What is expected under a key of a node of a kind. -/
def NodeKind.position (kind : NodeKind) (key : String) : Position :=
  (kind.positions.lookup key).getD .plain

/-- The keys that may hold a tag or the attributes. -/
def reservedKeys : List String := ["nodeType", "name", "kind", "attributes"]

/-- No nodes are expected under keys that all nodes have. -/
theorem NodeKind.position_common (kind : NodeKind) :
    ∀ key ∈ reservedKeys ++ ["id", "src", "documentation", "typeDescriptions",
      "externalReferences"], kind.position key = .plain := by
  cases kind <;> decide

theorem NodeKind.not_mem_reservedKeys {kind : NodeKind} {key : String}
    (holds : kind.position key ≠ .plain) : key ∉ reservedKeys :=
  fun member => holds (kind.position_common key (List.mem_append_left _ member))

namespace Position

/-- What is expected under a key of a node whose kind may be unknown. -/
def ofKind? (kind : Option NodeKind) (key : String) : Position :=
  (kind.map fun known => known.position key).getD .plain

/-- What is expected of the items of a list. -/
def item : Position → Position
  | nodes => node
  | symbolAliases => symbolAlias
  | _ => plain

/-- What is expected of the members of an object.  The kind of a node is what the tag
under `nodeType` names. -/
def member (members : Members) : Position → String → Position
  | node, key =>
    if key = "attributes" then attributes (TagKey.nodeType.kind? members)
    else ofKind? (TagKey.nodeType.kind? members) key
  | attributes kind, key => ofKind? kind key
  | symbolAlias, key => if key = "foreign" then node else plain
  | _, _ => plain

variable {members : Members} {key : String}

theorem member_node_attributes :
    node.member members "attributes" = attributes (TagKey.nodeType.kind? members) := by
  rw [member, if_pos rfl]

theorem member_node_of_ne (other : key ≠ "attributes") :
    node.member members key = ofKind? (TagKey.nodeType.kind? members) key := if_neg other

theorem member_alias_foreign : symbolAlias.member members "foreign" = node := by
  rw [member, if_pos rfl]

theorem member_alias_of_ne (other : key ≠ "foreign") :
    symbolAlias.member members key = plain :=
  if_neg other

end Position

/-! ## The nodes of a document -/

namespace Json

mutual

/-- The members of all nodes in a value, of which so much is expected. -/
def nodesAt : Position → Json → List Members
  | .plain, _ => []
  | position, arr items => itemsNodesAt position.item items
  | position, obj members =>
    (if position = .node then [members] else []) ++ membersNodesAt (position.member members) members
  | _, _ => []

def itemsNodesAt (position : Position) : List Json → List Members
  | [] => []
  | item :: rest => nodesAt position item ++ itemsNodesAt position rest

def membersNodesAt (position : String → Position) : List (String × Json) → List Members
  | [] => []
  | (key, value) :: rest => nodesAt (position key) value ++ membersNodesAt position rest

end

/-- The members of all nodes of a document. -/
def nodes (document : Json) : List Members := document.nodesAt .node

mutual

/-- A value with all nodes in it changed. -/
def rearrange (change : Members → Members) : Position → Json → Json
  | .plain, value => value
  | position, arr items => arr (rearrangeItems change position.item items)
  | position, obj members =>
    let inside := rearrangeMembers change (position.member members) members
    obj (if position = .node then change inside else inside)
  | _, value => value

def rearrangeItems (change : Members → Members) (position : Position) : List Json → List Json
  | [] => []
  | item :: rest => rearrange change position item :: rearrangeItems change position rest

def rearrangeMembers (change : Members → Members) (position : String → Position) :
    List (String × Json) → List (String × Json)
  | [] => []
  | (key, value) :: rest =>
    (key, rearrange change (position key) value) :: rearrangeMembers change position rest

end

/-- A document with all nodes changed. -/
def rearranged (change : Members → Members) (document : Json) : Json :=
  document.rearrange change .node

variable {change : Members → Members} {position : Position} {value : Json}

theorem rearrange_plain : value.rearrange change .plain = value := by
  unfold rearrange
  rfl

theorem rearrange_arr {items : List Json} (holds : position ≠ .plain) :
    (arr items).rearrange change position = arr (rearrangeItems change position.item items) := by
  cases position with
  | plain => exact absurd rfl holds
  | _ => rfl

theorem rearrange_alias {members : Members} :
    (obj members).rearrange change .symbolAlias =
      obj (rearrangeMembers change (Position.symbolAlias.member members) members) := rfl

theorem rearrange_node {members : Members} :
    (obj members).rearrange change .node =
      obj (change (rearrangeMembers change (Position.node.member members) members)) := rfl

theorem rearrangeItems_eq_map (items : List Json) :
    rearrangeItems change position items = items.map (rearrange change position) := by
  induction items with
  | nil => rfl
  | cons item rest ih =>
    rw [rearrangeItems, ih]
    rfl

theorem nodesAt_arr {items : List Json} (holds : position ≠ .plain) :
    (arr items).nodesAt position = itemsNodesAt position.item items := by
  cases position with
  | plain => exact absurd rfl holds
  | _ => rfl

theorem mem_itemsNodesAt {items : List Json} {item : Json} (member : item ∈ items)
    {inner : Members} (inside : inner ∈ item.nodesAt position) :
    inner ∈ itemsNodesAt position items := by
  induction items with
  | nil => cases member
  | cons first rest ih =>
    rw [itemsNodesAt]
    rcases List.mem_cons.1 member with rfl | later
    · exact List.mem_append_left _ inside
    · exact List.mem_append_right _ (ih later)

theorem mem_membersNodesAt {positions : String → Position} {members : Members} {key : String}
    {value : Json} (member : (key, value) ∈ members) {inner : Members}
    (inside : inner ∈ value.nodesAt (positions key)) :
    inner ∈ membersNodesAt positions members := by
  induction members with
  | nil => cases member
  | cons entry rest ih =>
    rcases entry with ⟨name, content⟩
    rw [membersNodesAt]
    rcases List.mem_cons.1 member with same | later
    · cases same
      exact List.mem_append_left _ inside
    · exact List.mem_append_right _ (ih later)

/-! ## What a change of nodes keeps -/

theorem isNull_rearrange : (value.rearrange change position).isNull = value.isNull := by
  cases position <;> cases value <;> rfl

theorem isObject_rearrange : (value.rearrange change position).isObject = value.isObject := by
  cases position <;> cases value <;> rfl

theorem asString?_rearrange : (value.rearrange change position).asString? = value.asString? := by
  cases position <;> cases value <;> rfl

end Json
end ContractTree
