import ContractTree.Proofs.Form.Questions

namespace ContractTree

/-!
# What is expected under a key

The nodes that stand under a key of a node of a kind have to be of one category.  This
is part of the grammar, and whatever a form is answered, it asks for children of just
these categories.
-/

/-- The categories of the children of nodes of a kind by their keys. -/
def NodeKind.categories : NodeKind → List (String × Category)
  | sourceUnit => [("nodes", .anyNode), ("children", .anyNode)]
  | importDirective => [("symbolAliases", .identifier)]
  | contractDefinition => [("baseContracts", .inheritanceSpecifier), ("nodes", .anyNode)]
  | inheritanceSpecifier => [("baseName", .userDefinedTypeName), ("arguments", .expression)]
  | usingForDirective => [("libraryName", .userDefinedTypeName), ("typeName", .typeName)]
  | structDefinition => [("members", .variableDeclaration)]
  | enumDefinition => [("members", .enumValue)]
  | parameterList => [("parameters", .variableDeclaration)]
  | functionDefinition => [("parameters", .parameterList), ("returnParameters", .parameterList),
      ("modifiers", .modifierInvocation), ("body", .block)]
  | variableDeclaration => [("typeName", .typeName), ("value", .expression)]
  | modifierDefinition => [("parameters", .parameterList), ("body", .block)]
  | modifierInvocation => [("modifierName", .identifier), ("arguments", .expression)]
  | eventDefinition => [("parameters", .parameterList)]
  | functionTypeName => [("parameterTypes", .parameterList),
      ("returnParameterTypes", .parameterList)]
  | mapping => [("keyType", .elementaryTypeName), ("valueType", .typeName)]
  | arrayTypeName => [("baseType", .typeName), ("length", .expression)]
  | block => [("statements", .statement)]
  | ifStatement => [("condition", .expression), ("trueBody", .statement),
      ("falseBody", .statement)]
  | doWhileStatement | whileStatement => [("condition", .expression), ("body", .statement)]
  | forStatement => [("initializationExpression", .statement), ("initExpression", .statement),
      ("condition", .expression), ("loopExpression", .expressionStatement), ("body", .statement)]
  | returnStatement => [("expression", .expression)]
  | emitStatement => [("eventCall", .functionCall)]
  | variableDeclarationStatement => [("declarations", .variableDeclaration),
      ("initialValue", .expression)]
  | expressionStatement => [("expression", .expression)]
  | conditional => [("condition", .expression), ("trueExpression", .expression),
      ("falseExpression", .expression)]
  | assignment => [("leftHandSide", .expression), ("rightHandSide", .expression)]
  | tupleExpression => [("components", .expression)]
  | unaryOperation => [("subExpression", .expression)]
  | binaryOperation => [("leftExpression", .expression), ("rightExpression", .expression)]
  | functionCall => [("expression", .expression), ("arguments", .expression)]
  | newExpression => [("typeName", .typeName)]
  | memberAccess => [("expression", .expression)]
  | indexAccess => [("baseExpression", .expression), ("indexExpression", .expression)]
  | elementaryTypeNameExpression => [("typeName", .elementaryTypeName)]
  | pragmaDirective | enumValue | elementaryTypeName | userDefinedTypeName | inlineAssembly
  | placeholderStatement | continueStatement | breakStatement | throwStatement | identifier
  | literal => []

/-- The category of the children under a key of a node of a kind. -/
def NodeKind.expected (kind : NodeKind) (key : String) : Category :=
  (kind.categories.lookup key).getD .anyNode

/-- A question asks for children of the category that is expected, and for a type as a
text of an expression only. -/
def Field.Expects (kind : NodeKind) : Field → Prop
  | child key category | child? key category | children key category
  | gappedChildren key category => kind.expected key = category
  | elementaryChild key => kind.expected key = .elementaryTypeName
  | aliases => kind.expected "symbolAliases" = .identifier
  | typeText => kind = .elementaryTypeNameExpression
  | _ => True

namespace Form

variable {α : Type} {first second : Field → Prop}

theorem Asks.and {form : Form α} {good other : α → Prop} (asks : form.Asks first good)
    (asks' : form.Asks second other) :
    form.Asks (fun field => first field ∧ second field) fun result =>
      good result ∧ other result := by
  induction form with
  | done result => exact ⟨asks, asks'⟩
  | fail defect => trivial
  | read field next ih =>
    exact ⟨⟨asks.1, asks'.1⟩, fun answer => ih answer (asks.2 answer) (asks'.2 answer)⟩

open Opened OpenedWords

/-- The form of a kind asks for children of the categories that are expected. -/
theorem asks_expected (kind : NodeKind) : kind.form.Asks (Field.Expects kind) fun _ => True := by
  cases kind <;>
    simp [Field.Expects, NodeKind.expected, NodeKind.categories, List.lookup_cons,
      List.lookup_nil, Option.forall]

end Form
end ContractTree
