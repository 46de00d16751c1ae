import ContractTree.Form.Declaration
import ContractTree.Form.TypeName
import ContractTree.Form.Statement
import ContractTree.Form.Expression

namespace ContractTree

/-!
# The form of a kind

What the forms of all kinds have in common is shown by opening each of them down to
the questions that it asks.  The definitions that are opened for this are gathered at
the end, where a form that is added has to be added as well.
-/

/-- The form that nodes of a kind have. -/
def NodeKind.form : NodeKind → Form Node
  | sourceUnit => Form.sourceUnit
  | pragmaDirective => Form.pragmaDirective
  | importDirective => Form.importDirective
  | contractDefinition => Form.contractDefinition
  | inheritanceSpecifier => Form.inheritanceSpecifier
  | usingForDirective => Form.usingForDirective
  | structDefinition => Form.structDefinition
  | enumDefinition => Form.enumDefinition
  | enumValue => Form.enumValue
  | parameterList => Form.parameterList
  | functionDefinition => Form.functionDefinition
  | variableDeclaration => Form.variableDeclaration
  | modifierDefinition => Form.modifierDefinition
  | modifierInvocation => Form.modifierInvocation
  | eventDefinition => Form.eventDefinition
  | elementaryTypeName => Form.elementaryTypeName
  | userDefinedTypeName => Form.userDefinedTypeName
  | functionTypeName => Form.functionTypeName
  | mapping => Form.mapping
  | arrayTypeName => Form.arrayTypeName
  | inlineAssembly => Form.inlineAssembly
  | block => Form.block
  | placeholderStatement => Form.bare .placeholder
  | ifStatement => Form.ifStatement
  | doWhileStatement => Form.loop true
  | whileStatement => Form.loop false
  | forStatement => Form.forStatement
  | continueStatement => Form.bare .continueLoop
  | breakStatement => Form.bare .breakLoop
  | returnStatement => Form.returnStatement
  | throwStatement => Form.bare .throw
  | emitStatement => Form.emitStatement
  | variableDeclarationStatement => Form.variableDeclarationStatement
  | expressionStatement => Form.expressionStatement
  | conditional => Form.conditional
  | assignment => Form.assignment
  | tupleExpression => Form.tupleExpression
  | unaryOperation => Form.unaryOperation
  | binaryOperation => Form.binaryOperation
  | functionCall => Form.functionCall
  | newExpression => Form.newExpression
  | memberAccess => Form.memberAccess
  | indexAccess => Form.indexAccess
  | identifier => Form.identifier
  | elementaryTypeNameExpression => Form.elementaryTypeNameExpression
  | literal => Form.literal

/-! ## Opening forms -/

namespace Form

-- What asks for words only stays closed here, as it often has lemmas of its own.
namespace Opened

attribute [scoped simp] Form.id location text text? flag flag? flagOrFalse documentation texts
  holds child child? children gappedChildren unitMembers functionBody modifierName
  expressedType

attribute [scoped simp] NodeKind.form sourceUnit pragmaDirective importDirective
  contractDefinition inheritanceSpecifier usingForDirective structDefinition enumDefinition
  enumValue parameterList functionDefinition variableDeclaration modifierDefinition
  modifierInvocation eventDefinition elementaryTypeName userDefinedTypeName functionTypeName
  mapping arrayTypeName inlineAssembly block bare ifStatement loop forStatement
  returnStatement emitStatement variableDeclarationStatement expressionStatement conditional
  assignment tupleExpression unaryOperation binaryOperation functionCall newExpression
  memberAccess indexAccess identifier elementaryTypeNameExpression literal

end Opened

namespace OpenedWords

attribute [scoped simp] mutability visibility storageLocation isConstructor isConstant
  typeWord literalKind denomination

end OpenedWords

end Form
end ContractTree
