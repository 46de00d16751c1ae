import ContractTree.Form.Attribute

namespace ContractTree

/-!
# Forms of type names
-/

namespace Form

/-- A type name as a node. -/
def nameType (id : NodeId) (location : SourceLocation) (typeName : TypeName Node) : Node :=
  ⟨id, location, .typeName typeName⟩

/-- The word for a type is its name or, without one, the type that its description
gives.  A type without either has no name. -/
def typeWord : Form String := do
  match ← text? "name" with
  | some word => return word
  | none =>
    match ← ask .typeString with
    | some word => return word
    | none => fail (.missing "name")

def elementaryTypeName : Form Node := do
  let location ← Form.location
  let word ← typeWord
  let id ← Form.id
  let type ← Token.resolveElementary word
  return nameType id location (.elementary type)

def userDefinedTypeName : Form Node := do
  let location ← Form.location
  let path ← TypePath.read (← text "name")
  let id ← Form.id
  return nameType id location (.userDefined path)

def functionTypeName : Form Node := do
  let (isDeclaredConst, isPayable) ← mutability
  let id ← Form.id
  let location ← Form.location
  let parameterTypes ← child "parameterTypes" .parameterList
  let returnTypes ← child "returnParameterTypes" .parameterList
  let visibility ← Form.visibility
  return nameType id location
    (.function parameterTypes returnTypes visibility isDeclaredConst isPayable)

def mapping : Form Node := do
  let id ← Form.id
  let location ← Form.location
  let keyType ← child "keyType" .elementaryTypeName
  let valueType ← child "valueType" .typeName
  return nameType id location (.mapping keyType valueType)

def arrayTypeName : Form Node := do
  let id ← Form.id
  let location ← Form.location
  let baseType ← child "baseType" .typeName
  let length ← child? "length" .expression
  return nameType id location (.array baseType length)

end Form
end ContractTree
