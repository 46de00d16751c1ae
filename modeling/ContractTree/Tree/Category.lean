import ContractTree.Tree.Kind

namespace ContractTree

/-!
# Categories

A place in a tree admits nodes of some kinds only.  A category names the kinds
that a place admits.  Three of them, type names, statements and expressions, admit
several kinds, one admits every kind, and the others admit a single one.
-/

inductive Category where
  | anyNode
  | sourceUnit
  | pragmaDirective
  | importDirective
  | contractDefinition
  | inheritanceSpecifier
  | usingForDirective
  | structDefinition
  | enumDefinition
  | enumValue
  | parameterList
  | functionDefinition
  | variableDeclaration
  | modifierDefinition
  | modifierInvocation
  | eventDefinition
  | typeName
  | statement
  | expression
  | elementaryTypeName
  | userDefinedTypeName
  | block
  | expressionStatement
  | functionCall
  | identifier
  | literal
  deriving DecidableEq, Repr

namespace Category

/-- Every category once, the wide ones among the narrow. -/
def all : List Category :=
  [anyNode, sourceUnit, pragmaDirective, importDirective, contractDefinition,
    inheritanceSpecifier, usingForDirective, structDefinition, enumDefinition, enumValue,
    parameterList, functionDefinition, variableDeclaration, modifierDefinition,
    modifierInvocation, eventDefinition, typeName, statement, expression, elementaryTypeName,
    userDefinedTypeName, block, expressionStatement, functionCall, identifier, literal]

/-- What diagnostics call a node of the category. -/
def description : Category → String
  | anyNode => "any node"
  | sourceUnit => "source unit"
  | pragmaDirective => "pragma directive"
  | importDirective => "import directive"
  | contractDefinition => "contract definition"
  | inheritanceSpecifier => "inheritance specifier"
  | usingForDirective => "using-for directive"
  | structDefinition => "struct definition"
  | enumDefinition => "enum definition"
  | enumValue => "enum value"
  | parameterList => "parameter list"
  | functionDefinition => "function definition"
  | variableDeclaration => "variable declaration"
  | modifierDefinition => "modifier definition"
  | modifierInvocation => "modifier invocation"
  | eventDefinition => "event definition"
  | typeName => "type name"
  | statement => "statement"
  | expression => "expression"
  | elementaryTypeName => "elementary type name"
  | userDefinedTypeName => "user-defined type name"
  | block => "block"
  | expressionStatement => "expression statement"
  | functionCall => "function call"
  | identifier => "identifier"
  | literal => "literal"

def accepts : Category → NodeKind → Bool
  | anyNode, _ => true
  | typeName, kind => kind.isTypeName
  | statement, kind => kind.isStatement
  | expression, kind => kind.isExpression
  | sourceUnit, kind => kind = .sourceUnit
  | pragmaDirective, kind => kind = .pragmaDirective
  | importDirective, kind => kind = .importDirective
  | contractDefinition, kind => kind = .contractDefinition
  | inheritanceSpecifier, kind => kind = .inheritanceSpecifier
  | usingForDirective, kind => kind = .usingForDirective
  | structDefinition, kind => kind = .structDefinition
  | enumDefinition, kind => kind = .enumDefinition
  | enumValue, kind => kind = .enumValue
  | parameterList, kind => kind = .parameterList
  | functionDefinition, kind => kind = .functionDefinition
  | variableDeclaration, kind => kind = .variableDeclaration
  | modifierDefinition, kind => kind = .modifierDefinition
  | modifierInvocation, kind => kind = .modifierInvocation
  | eventDefinition, kind => kind = .eventDefinition
  | elementaryTypeName, kind => kind = .elementaryTypeName
  | userDefinedTypeName, kind => kind = .userDefinedTypeName
  | block, kind => kind = .block
  | expressionStatement, kind => kind = .expressionStatement
  | functionCall, kind => kind = .functionCall
  | identifier, kind => kind = .identifier
  | literal, kind => kind = .literal

end Category
end ContractTree
