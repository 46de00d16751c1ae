import ContractTree.Form.Kind
import ContractTree.Proofs.Represented.Declaration
import ContractTree.Proofs.Represented.Expression
import ContractTree.Proofs.Represented.Statement
import ContractTree.Proofs.Represented.TypeName

namespace ContractTree

/-!
# Every form represents its document nodes
-/

/-- The form of the kind of a document node makes a node that represents it. -/
theorem DocumentNode.represent_form (settings : Settings) (depth : Nat) (document : DocumentNode) :
    document.kind.form.Represent settings depth document := by
  cases kind : document.kind with
  | sourceUnit => exact Form.represent_sourceUnit kind
  | pragmaDirective => exact Form.represent_pragmaDirective kind
  | importDirective => exact Form.represent_importDirective kind
  | contractDefinition => exact Form.represent_contractDefinition kind
  | inheritanceSpecifier => exact Form.represent_inheritanceSpecifier kind
  | usingForDirective => exact Form.represent_usingForDirective kind
  | structDefinition => exact Form.represent_structDefinition kind
  | enumDefinition => exact Form.represent_enumDefinition kind
  | enumValue => exact Form.represent_enumValue kind
  | parameterList => exact Form.represent_parameterList kind
  | functionDefinition => exact Form.represent_functionDefinition kind
  | variableDeclaration => exact Form.represent_variableDeclaration kind
  | modifierDefinition => exact Form.represent_modifierDefinition kind
  | modifierInvocation => exact Form.represent_modifierInvocation kind
  | eventDefinition => exact Form.represent_eventDefinition kind
  | elementaryTypeName => exact Form.represent_elementaryTypeName kind
  | userDefinedTypeName => exact Form.represent_userDefinedTypeName kind
  | functionTypeName => exact Form.represent_functionTypeName kind
  | mapping => exact Form.represent_mapping kind
  | arrayTypeName => exact Form.represent_arrayTypeName kind
  | inlineAssembly => exact Form.represent_inlineAssembly kind
  | block => exact Form.represent_block kind
  | placeholderStatement => exact Form.represent_placeholder kind
  | ifStatement => exact Form.represent_ifStatement kind
  | doWhileStatement => exact Form.represent_doWhile kind
  | whileStatement => exact Form.represent_while kind
  | forStatement => exact Form.represent_forStatement kind
  | continueStatement => exact Form.represent_continue kind
  | breakStatement => exact Form.represent_break kind
  | returnStatement => exact Form.represent_returnStatement kind
  | throwStatement => exact Form.represent_throw kind
  | emitStatement => exact Form.represent_emitStatement kind
  | variableDeclarationStatement => exact Form.represent_variableDeclarationStatement kind
  | expressionStatement => exact Form.represent_expressionStatement kind
  | conditional => exact Form.represent_conditional kind
  | assignment => exact Form.represent_assignment kind
  | tupleExpression => exact Form.represent_tupleExpression kind
  | unaryOperation => exact Form.represent_unaryOperation kind
  | binaryOperation => exact Form.represent_binaryOperation kind
  | functionCall => exact Form.represent_functionCall kind
  | newExpression => exact Form.represent_newExpression kind
  | memberAccess => exact Form.represent_memberAccess kind
  | indexAccess => exact Form.represent_indexAccess kind
  | identifier => exact Form.represent_identifier kind
  | elementaryTypeNameExpression => exact Form.represent_elementaryTypeNameExpression kind
  | literal => exact Form.represent_literal kind

end ContractTree
