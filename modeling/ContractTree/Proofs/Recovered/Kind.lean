import ContractTree.Form.Kind
import ContractTree.Proofs.Recovered.Declaration
import ContractTree.Proofs.Recovered.Expression
import ContractTree.Proofs.Recovered.Statement
import ContractTree.Proofs.Recovered.TypeName

namespace ContractTree

/-!
# Every form recovers its nodes
-/

section Shape

variable {id : NodeId} {location : SourceLocation} {source : SourceName}

theorem Declaration.recovers_form {shape : Declaration Node} (grammatical : shape.Grammatical) :
    shape.kind.form.Recovers ⟨id, location, .declaration shape⟩ := by
  cases shape with
  | sourceUnit absolutePath nodes => exact Form.recovers_sourceUnit
  | pragmaDirective tokens literals => exact Form.recovers_pragmaDirective grammatical
  | importDirective path unitAlias aliases => exact Form.recovers_importDirective
  | contractDefinition contract => exact Form.recovers_contractDefinition
  | inheritanceSpecifier baseName arguments => exact Form.recovers_inheritanceSpecifier
  | usingForDirective libraryName typeName => exact Form.recovers_usingForDirective
  | structDefinition name members => exact Form.recovers_structDefinition
  | enumDefinition name members => exact Form.recovers_enumDefinition
  | enumValue name => exact Form.recovers_enumValue
  | parameterList parameters => exact Form.recovers_parameterList
  | functionDefinition function => exact Form.recovers_functionDefinition
  | variableDeclaration declared => exact Form.recovers_variableDeclaration
  | modifierDefinition name documentation parameters body => exact Form.recovers_modifierDefinition
  | modifierInvocation name arguments => exact Form.recovers_modifierInvocation
  | eventDefinition name documentation parameters isAnonymous => exact Form.recovers_eventDefinition

theorem TypeName.recovers_form {shape : TypeName Node} (grammatical : shape.Grammatical) :
    shape.kind.form.Recovers ⟨id, location, .typeName shape⟩ := by
  cases shape with
  | elementary type => exact Form.recovers_elementaryTypeName grammatical
  | userDefined path => exact Form.recovers_userDefinedTypeName grammatical
  | function parameterTypes returnTypes visibility isDeclaredConst isPayable =>
    exact Form.recovers_functionTypeName
  | mapping keyType valueType => exact Form.recovers_mapping
  | array baseType length => exact Form.recovers_arrayTypeName

theorem Statement.recovers_form {shape : Statement Node} :
    shape.kind.form.Recovers ⟨id, location, .statement shape⟩ := by
  cases shape with
  | inlineAssembly operations references => exact Form.recovers_inlineAssembly
  | block statements => exact Form.recovers_block
  | placeholder => exact Form.recovers_bare
  | branch condition trueBody falseBody => exact Form.recovers_ifStatement
  | loop condition body isDoWhile => cases isDoWhile <;> exact Form.recovers_loop
  | forLoop initialization condition loopExpression body => exact Form.recovers_forStatement
  | continueLoop => exact Form.recovers_bare
  | breakLoop => exact Form.recovers_bare
  | returnResult value => exact Form.recovers_returnStatement
  | throw => exact Form.recovers_bare
  | emit eventCall => exact Form.recovers_emitStatement
  | declareVariables declarations initialValue =>
    exact Form.recovers_variableDeclarationStatement
  | expression value => exact Form.recovers_expressionStatement

theorem Expression.recovers_form {shape : Expression Node} (grammatical : shape.Grammatical) :
    shape.kind.form.Recovers ⟨id, location, .expression shape⟩ := by
  cases shape with
  | conditional condition trueExpression falseExpression => exact Form.recovers_conditional
  | assignment leftHandSide operator rightHandSide => exact Form.recovers_assignment grammatical
  | tuple components isInlineArray => exact Form.recovers_tupleExpression
  | unary operator subExpression isPrefix => exact Form.recovers_unaryOperation grammatical
  | binary left operator right => exact Form.recovers_binaryOperation grammatical
  | functionCall callee arguments names => exact Form.recovers_functionCall grammatical
  | newObject typeName => exact Form.recovers_newExpression
  | memberAccess object memberName => exact Form.recovers_memberAccess
  | indexAccess base index => exact Form.recovers_indexAccess
  | identifier name => exact Form.recovers_identifier
  | elementaryTypeName type => exact Form.recovers_elementaryTypeNameExpression grammatical
  | literal constant => exact Form.recovers_literal grammatical

end Shape

/-- The form of the kind of a grammatical node recovers it. -/
theorem Node.recovers_form {source : SourceName} {node : Node}
    (grammatical : node.Grammatical source) : node.kind.form.Recovers node := by
  have rules := grammatical.shape
  rcases node with ⟨id, location, shape⟩
  cases shape with
  | declaration shape => exact shape.recovers_form rules
  | typeName shape => exact shape.recovers_form rules
  | statement shape => exact shape.recovers_form
  | expression shape => exact shape.recovers_form rules

end ContractTree
