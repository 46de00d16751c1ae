import ContractTree.Form.Basic

namespace ContractTree

/-!
# Forms of statements
-/

namespace Form

/-- A statement as a node. -/
def execute (id : NodeId) (location : SourceLocation) (statement : Statement Node) : Node :=
  ⟨id, location, .statement statement⟩

def inlineAssembly : Form Node := do
  let location ← Form.location
  let operations ← text "operations"
  let references ← ask .references
  let id ← Form.id
  return execute id location (.inlineAssembly operations references)

def block : Form Node := do
  let id ← Form.id
  let location ← Form.location
  let statements ← children "statements" .statement
  return execute id location (.block statements)

/-- A statement that has no fields of its own. -/
def bare (statement : Statement Node) : Form Node := do
  let id ← Form.id
  let location ← Form.location
  return execute id location statement

def ifStatement : Form Node := do
  let id ← Form.id
  let location ← Form.location
  let condition ← child "condition" .expression
  let trueBody ← child "trueBody" .statement
  let falseBody ← child? "falseBody" .statement
  return execute id location (.branch condition trueBody falseBody)

/-- Both sorts of loops have this form; the kind of the node tells them apart. -/
def loop (isDoWhile : Bool) : Form Node := do
  let id ← Form.id
  let location ← Form.location
  let condition ← child "condition" .expression
  let body ← child "body" .statement
  return execute id location (.loop condition body isDoWhile)

/-- The initialization stands under its long key or, if nothing stands there, under
its short one. -/
def forStatement : Form Node := do
  let hasLongKey ← holds "initializationExpression"
  let id ← Form.id
  let location ← Form.location
  let initialization ←
    child? (if hasLongKey then "initializationExpression" else "initExpression") .statement
  let condition ← child? "condition" .expression
  let loopExpression ← child? "loopExpression" .expressionStatement
  let body ← child "body" .statement
  return execute id location (.forLoop initialization condition loopExpression body)

def returnStatement : Form Node := do
  let id ← Form.id
  let location ← Form.location
  let expression ← child? "expression" .expression
  return execute id location (.returnResult expression)

def emitStatement : Form Node := do
  let id ← Form.id
  let location ← Form.location
  let eventCall ← child "eventCall" .functionCall
  return execute id location (.emit eventCall)

def variableDeclarationStatement : Form Node := do
  let id ← Form.id
  let location ← Form.location
  let declarations ← gappedChildren "declarations" .variableDeclaration
  let initialValue ← child? "initialValue" .expression
  return execute id location (.declareVariables declarations initialValue)

def expressionStatement : Form Node := do
  let id ← Form.id
  let location ← Form.location
  let expression ← child "expression" .expression
  return execute id location (.expression expression)

end Form
end ContractTree
