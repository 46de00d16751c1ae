namespace ContractTree

/-!
# Node kinds

Every node of a tree is of one kind, and a document names the kind by a tag.  Tags
are matched exactly, so a kind has one tag and a tag names at most one kind.  The
two loops that test a condition before or after their body are different kinds
although the tree holds them alike.
-/

inductive NodeKind where
  | sourceUnit
  | pragmaDirective
  | importDirective
  | contractDefinition
  | inheritanceSpecifier
  | usingForDirective
  | structDefinition
  | enumDefinition
  | enumValue
  | parameterList
  | functionDefinition
  | variableDeclaration
  | modifierDefinition
  | modifierInvocation
  | eventDefinition
  | elementaryTypeName
  | userDefinedTypeName
  | functionTypeName
  | mapping
  | arrayTypeName
  | inlineAssembly
  | block
  | placeholderStatement
  | ifStatement
  | doWhileStatement
  | whileStatement
  | forStatement
  | continueStatement
  | breakStatement
  | returnStatement
  | throwStatement
  | emitStatement
  | variableDeclarationStatement
  | expressionStatement
  | conditional
  | assignment
  | tupleExpression
  | unaryOperation
  | binaryOperation
  | functionCall
  | newExpression
  | memberAccess
  | indexAccess
  | identifier
  | elementaryTypeNameExpression
  | literal
  deriving DecidableEq, Repr, Inhabited

namespace NodeKind

/-- Every kind once: declarations, type names, statements, expressions. -/
def all : List NodeKind :=
  [sourceUnit, pragmaDirective, importDirective, contractDefinition, inheritanceSpecifier,
    usingForDirective, structDefinition, enumDefinition, enumValue, parameterList,
    functionDefinition, variableDeclaration, modifierDefinition, modifierInvocation,
    eventDefinition, elementaryTypeName, userDefinedTypeName, functionTypeName, mapping,
    arrayTypeName, inlineAssembly, block, placeholderStatement, ifStatement, doWhileStatement,
    whileStatement, forStatement, continueStatement, breakStatement, returnStatement,
    throwStatement, emitStatement, variableDeclarationStatement, expressionStatement, conditional,
    assignment, tupleExpression, unaryOperation, binaryOperation, functionCall, newExpression,
    memberAccess, indexAccess, identifier, elementaryTypeNameExpression, literal]

theorem mem_all (kind : NodeKind) : kind ∈ all := by
  cases kind <;> decide

/-- The tag that names a kind. -/
def tag : NodeKind → String
  | sourceUnit => "SourceUnit"
  | pragmaDirective => "PragmaDirective"
  | importDirective => "ImportDirective"
  | contractDefinition => "ContractDefinition"
  | inheritanceSpecifier => "InheritanceSpecifier"
  | usingForDirective => "UsingForDirective"
  | structDefinition => "StructDefinition"
  | enumDefinition => "EnumDefinition"
  | enumValue => "EnumValue"
  | parameterList => "ParameterList"
  | functionDefinition => "FunctionDefinition"
  | variableDeclaration => "VariableDeclaration"
  | modifierDefinition => "ModifierDefinition"
  | modifierInvocation => "ModifierInvocation"
  | eventDefinition => "EventDefinition"
  | elementaryTypeName => "ElementaryTypeName"
  | userDefinedTypeName => "UserDefinedTypeName"
  | functionTypeName => "FunctionTypeName"
  | mapping => "Mapping"
  | arrayTypeName => "ArrayTypeName"
  | inlineAssembly => "InlineAssembly"
  | block => "Block"
  | placeholderStatement => "PlaceholderStatement"
  | ifStatement => "IfStatement"
  | doWhileStatement => "DoWhileStatement"
  | whileStatement => "WhileStatement"
  | forStatement => "ForStatement"
  | continueStatement => "Continue"
  | breakStatement => "Break"
  | returnStatement => "Return"
  | throwStatement => "Throw"
  | emitStatement => "EmitStatement"
  | variableDeclarationStatement => "VariableDeclarationStatement"
  | expressionStatement => "ExpressionStatement"
  | conditional => "Conditional"
  | assignment => "Assignment"
  | tupleExpression => "TupleExpression"
  | unaryOperation => "UnaryOperation"
  | binaryOperation => "BinaryOperation"
  | functionCall => "FunctionCall"
  | newExpression => "NewExpression"
  | memberAccess => "MemberAccess"
  | indexAccess => "IndexAccess"
  | identifier => "Identifier"
  | elementaryTypeNameExpression => "ElementaryTypeNameExpression"
  | literal => "Literal"

/-- The kind that a tag names. -/
def ofTag? (tag : String) : Option NodeKind :=
  all.find? fun kind => kind.tag = tag

theorem ofTag?_tag (kind : NodeKind) : ofTag? kind.tag = some kind := by
  have each : ∀ kind ∈ all, ofTag? kind.tag = some kind := by decide
  exact each kind (mem_all kind)

/-- A kind is named by its tag and by no other text. -/
theorem ofTag?_eq_some_iff {tag : String} {kind : NodeKind} :
    ofTag? tag = some kind ↔ kind.tag = tag := by
  constructor
  · intro found
    have named : decide (kind.tag = tag) = true :=
      List.find?_some (p := fun kind : NodeKind => decide (kind.tag = tag)) found
    exact of_decide_eq_true named
  · rintro rfl
    exact ofTag?_tag kind

theorem ofTag?_eq_none_iff {tag : String} :
    ofTag? tag = none ↔ ∀ kind : NodeKind, kind.tag ≠ tag := by
  constructor
  · rintro unsupported kind rfl
    cases unsupported.symm.trans (ofTag?_tag kind)
  · intro unsupported
    cases found : ofTag? tag with
    | none => rfl
    | some kind => exact absurd (ofTag?_eq_some_iff.1 found) (unsupported kind)

/-- The position of a kind in the list of all kinds. -/
def index (kind : NodeKind) : Nat := all.idxOf kind

/-- Names of types, as they stand in declarations. -/
def isTypeName : NodeKind → Bool
  | elementaryTypeName | userDefinedTypeName | functionTypeName | mapping | arrayTypeName => true
  | _ => false

def isStatement : NodeKind → Bool
  | inlineAssembly | block | placeholderStatement | ifStatement | doWhileStatement
  | whileStatement | forStatement | continueStatement | breakStatement | returnStatement
  | throwStatement | emitStatement | variableDeclarationStatement | expressionStatement => true
  | _ => false

def isExpression : NodeKind → Bool
  | conditional | assignment | tupleExpression | unaryOperation | binaryOperation | functionCall
  | newExpression | memberAccess | indexAccess | identifier | elementaryTypeNameExpression
  | literal => true
  | _ => false

end NodeKind
end ContractTree
