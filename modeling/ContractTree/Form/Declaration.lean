import ContractTree.Form.Attribute

namespace ContractTree

/-!
# Forms of declarations

Only a source unit may do without an identifier and a location.  All other forms
ask for both, before or after their other fields.
-/

namespace Form

/-- A declaration as a node. -/
def declare (id : NodeId) (location : SourceLocation) (declaration : Declaration Node) : Node :=
  ⟨id, location, .declaration declaration⟩

/-- The members of a source unit stand under `nodes` or, if nothing stands there,
under `children`. -/
def unitMembers : Form (List Node) := do
  let hasNodes ← holds "nodes"
  children (if hasNodes then "nodes" else "children") .anyNode

def sourceUnit : Form Node := do
  let location ← ask .locationOrWhole
  let id ← ask .idOrZero
  let nodes ← unitMembers
  let absolutePath ← text? "absolutePath"
  return declare id location (.sourceUnit absolutePath nodes)

def pragmaDirective : Form Node := do
  let location ← Form.location
  let literals ← texts "literals"
  let tokens ← literals.mapM fun literal => (Token.resolve literal : Form Token)
  let id ← Form.id
  return declare id location (.pragmaDirective tokens literals)

/-- A name that is brought in may be written as a name or as an identifier. -/
def importDirective : Form Node := do
  let location ← Form.location
  let id ← Form.id
  let path ← text "file"
  let unitAlias ← text? "unitAlias"
  let aliases ← ask .aliases
  let foreign := Sum.elim (Node.bareIdentifier id location) fun node => node
  return declare id location
    (.importDirective path (unitAlias.getD "") (aliases.map (SymbolAlias.map foreign)))

def contractDefinition : Form Node := do
  let location ← Form.location
  let kind ← ContractKind.read (← text "contractKind")
  let id ← Form.id
  let name ← text "name"
  let documentation ← Form.documentation
  let baseContracts ← children "baseContracts" .inheritanceSpecifier
  let members ← children "nodes" .anyNode
  return declare id location <| .contractDefinition {
    name := name
    documentation := documentation
    baseContracts := baseContracts
    members := members
    kind := kind }

def inheritanceSpecifier : Form Node := do
  let id ← Form.id
  let location ← Form.location
  let baseName ← child "baseName" .userDefinedTypeName
  let arguments ← children "arguments" .expression
  return declare id location (.inheritanceSpecifier baseName arguments)

def usingForDirective : Form Node := do
  let id ← Form.id
  let location ← Form.location
  let libraryName ← child "libraryName" .userDefinedTypeName
  let typeName ← child? "typeName" .typeName
  return declare id location (.usingForDirective libraryName typeName)

def structDefinition : Form Node := do
  let id ← Form.id
  let location ← Form.location
  let name ← text "name"
  let members ← children "members" .variableDeclaration
  return declare id location (.structDefinition name members)

def enumDefinition : Form Node := do
  let id ← Form.id
  let location ← Form.location
  let name ← text "name"
  let members ← children "members" .enumValue
  return declare id location (.enumDefinition name members)

def enumValue : Form Node := do
  let id ← Form.id
  let location ← Form.location
  let name ← text "name"
  return declare id location (.enumValue name)

def parameterList : Form Node := do
  let id ← Form.id
  let location ← Form.location
  let parameters ← children "parameters" .variableDeclaration
  return declare id location (.parameterList parameters)

/-- Whether a function is a constructor: by its flag or, without one, by its kind. -/
def isConstructor : Form Bool := do
  match ← flag? "isConstructor" with
  | some answer => return answer
  | none => return (← text? "kind") = some "constructor"

/-- A function that says it is not implemented has no body, whatever stands under
`body`; any other function must have one. -/
def functionBody : Form (Option Node) := do
  match ← flag? "implemented" with
  | some false => return none
  | _ => return some (← child "body" .block)

def functionDefinition : Form Node := do
  let location ← Form.location
  let id ← Form.id
  let isConstructor ← Form.isConstructor
  let (isDeclaredConst, isPayable) ← mutability
  let parameters ← child "parameters" .parameterList
  let returnParameters ← child "returnParameters" .parameterList
  let modifiers ← children "modifiers" .modifierInvocation
  let body ← functionBody
  let name ← text "name"
  let visibility ← Form.visibility
  let documentation ← Form.documentation
  return declare id location <| .functionDefinition {
    name := name
    visibility := visibility
    isConstructor := isConstructor
    documentation := documentation
    parameters := parameters
    isDeclaredConst := isDeclaredConst
    modifiers := modifiers
    returnParameters := returnParameters
    isPayable := isPayable
    body := body }

/-- Whether a variable is constant: by its flag or, without one, by its mutability. -/
def isConstant : Form Bool := do
  match ← flag? "constant" with
  | some answer => return answer
  | none => return (← text? "mutability") = some "constant"

def variableDeclaration : Form Node := do
  let location ← Form.location
  let typeName ← child? "typeName" .typeName
  let value ← child? "value" .expression
  let isConstant ← Form.isConstant
  let id ← Form.id
  let name ← text "name"
  let visibility ← Form.visibility
  let isStateVariable ← flagOrFalse "stateVariable"
  let isIndexed ← flagOrFalse "indexed"
  let storageLocation ← Form.storageLocation
  return declare id location <| .variableDeclaration {
    typeName := typeName
    name := name
    value := value
    visibility := visibility
    isStateVariable := isStateVariable
    isIndexed := isIndexed
    isConstant := isConstant
    storageLocation := storageLocation }

def modifierDefinition : Form Node := do
  let id ← Form.id
  let location ← Form.location
  let name ← text "name"
  let documentation ← Form.documentation
  let parameters ← child "parameters" .parameterList
  let body ← child "body" .block
  return declare id location (.modifierDefinition name documentation parameters body)

/-- A modifier is named by an identifier or, in older documents, by a name. -/
def modifierName (id : NodeId) (location : SourceLocation) : Form Node := do
  match ← child? "modifierName" .identifier with
  | some name => return name
  | none => return Node.bareIdentifier id location (← text "name")

def modifierInvocation : Form Node := do
  let location ← Form.location
  let id ← Form.id
  let name ← modifierName id location
  let arguments ← children "arguments" .expression
  return declare id location (.modifierInvocation name arguments)

def eventDefinition : Form Node := do
  let id ← Form.id
  let location ← Form.location
  let name ← text "name"
  let documentation ← Form.documentation
  let parameters ← child "parameters" .parameterList
  let isAnonymous ← flagOrFalse "anonymous"
  return declare id location (.eventDefinition name documentation parameters isAnonymous)

end Form
end ContractTree
