import ContractTree.Document.Text
import ContractTree.Form.Basic

namespace ContractTree

/-!
# Forms of expressions
-/

namespace Form

/-- An expression as a node. -/
def express (id : NodeId) (location : SourceLocation) (expression : Expression Node) : Node :=
  ⟨id, location, .expression expression⟩

def conditional : Form Node := do
  let id ← Form.id
  let location ← Form.location
  let condition ← child "condition" .expression
  let trueExpression ← child "trueExpression" .expression
  let falseExpression ← child "falseExpression" .expression
  return express id location (.conditional condition trueExpression falseExpression)

def assignment : Form Node := do
  let location ← Form.location
  let leftHandSide ← child "leftHandSide" .expression
  let operator ← Token.resolveIn .assignment (← text "operator")
  let rightHandSide ← child "rightHandSide" .expression
  let id ← Form.id
  return express id location (.assignment leftHandSide operator rightHandSide)

def tupleExpression : Form Node := do
  let id ← Form.id
  let location ← Form.location
  let components ← gappedChildren "components" .expression
  let isInlineArray ← flagOrFalse "isInlineArray"
  return express id location (.tuple components isInlineArray)

def unaryOperation : Form Node := do
  let location ← Form.location
  let operator ← Token.resolveIn .unary (← text "operator")
  let id ← Form.id
  let subExpression ← child "subExpression" .expression
  let isPrefix ← flag "prefix"
  return express id location (.unary operator subExpression isPrefix)

def binaryOperation : Form Node := do
  let location ← Form.location
  let left ← child "leftExpression" .expression
  let operator ← Token.resolveIn .binary (← text "operator")
  let right ← child "rightExpression" .expression
  let id ← Form.id
  return express id location (.binary left operator right)

/-- Named arguments have one name each. -/
def checkNames (names : List String) (arguments : List Node) : Form Unit :=
  if names = [] ∨ names.length = arguments.length then done ()
  else fail (.violation (.argumentNames names.length arguments.length))

def functionCall : Form Node := do
  let location ← Form.location
  let callee ← child "expression" .expression
  let arguments ← children "arguments" .expression
  let names ← texts "names"
  checkNames names arguments
  let id ← Form.id
  return express id location (.functionCall callee arguments names)

def newExpression : Form Node := do
  let id ← Form.id
  let location ← Form.location
  let typeName ← child "typeName" .typeName
  return express id location (.newObject typeName)

def memberAccess : Form Node := do
  let id ← Form.id
  let location ← Form.location
  let object ← child "expression" .expression
  let memberName ← text "memberName"
  return express id location (.memberAccess object memberName)

def indexAccess : Form Node := do
  let id ← Form.id
  let location ← Form.location
  let base ← child "baseExpression" .expression
  let index ← child? "indexExpression" .expression
  return express id location (.indexAccess base index)

def identifier : Form Node := do
  let id ← Form.id
  let location ← Form.location
  let name ← text "name"
  return express id location (.identifier name)

/-- The type stands under `typeName`, as a node or as a text.  A node is read like
any other child, in whichever place it stands. -/
def expressedType : Form ElementaryType := do
  match ← ask (.holdsObject "typeName") with
  | true => ask (.elementaryChild "typeName")
  | false => Token.resolveElementary (← ask .typeText)

def elementaryTypeNameExpression : Form Node := do
  let location ← Form.location
  let type ← expressedType
  let id ← Form.id
  return express id location (.elementaryTypeName type)

/-- The word for the kind of a literal, which older documents call `token`. -/
def literalKind : Form String := do
  match ← text? "kind" with
  | some word => return word
  | none =>
    match ← text? "token" with
    | some word => return word
    | none => fail (.missing "kind")

/-- The token of a literal.  A boolean literal is the token that its value writes,
so it needs one. -/
def literalToken (word : String) (value : Option String) : Form Token :=
  if word = "number" then done .number
  else if word = "string" then done .string
  else if word = "hexString" then done .hexString
  else if word = "bool" then
    match value with
    | some text => Token.resolveIn .boolean text
    | none => fail (.missing "value")
  else fail (.violation (.unknownLiteralKind word))

/-- Only a hexadecimal string whose bytes are given may lack a value. -/
def checkValue (token : Token) (value hexValue : Option String) : Form Unit :=
  if value.isSome ∨ (token = .hexString ∧ hexValue.isSome) then done ()
  else fail (.missing "value")

def denomination : Form (Option Token) := do
  match ← text? "subdenomination" with
  | some word => return some (← Token.resolveIn .denomination word)
  | none => return none

def literal : Form Node := do
  let location ← Form.location
  let word ← literalKind
  let value ← text? "value"
  let token ← literalToken word value
  let hexValue ← text? "hexValue"
  checkValue token value hexValue
  let denomination ← Form.denomination
  let id ← Form.id
  return express id location (.literal ⟨token, value, hexValue, denomination⟩)

end Form
end ContractTree
