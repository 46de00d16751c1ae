import ContractTree.Document.Text
import ContractTree.Form.Basic

namespace ContractTree

/-!
# Questions that several forms ask

Some properties of a declaration may be written in more than one way, because
documents of different ages write them differently.  The newer way is asked for
first wherever the older one is a separate field.
-/

namespace Form

/-- Whether a function is constant, and whether it may be paid.  Each is a flag; if
the flag is missing, the word for the mutability of state decides. -/
def mutability : Form (Bool × Bool) := do
  let state ← text? "stateMutability"
  let isConstant ← flag? "constant"
  let isPayable ← flag? "payable"
  return (isConstant.getD (state ∈ [some "view", some "pure", some "constant"]),
    isPayable.getD (state = some "payable"))

def visibility : Form Visibility := do
  match ← text? "visibility" with
  | some word => Visibility.read word
  | none => return .unspecified

/-- The storage location, which older documents call `location`. -/
def storageLocation : Form StorageLocation := do
  match ← text? "storageLocation" with
  | some word => StorageLocation.read word
  | none =>
    match ← text? "location" with
    | some word => StorageLocation.read word
    | none => return .unspecified

end Form

namespace Node

/-- An identifier that is known by its name only, and so stands where its owner
stands and shares its identifier. -/
def bareIdentifier (id : NodeId) (location : SourceLocation) (name : String) : Node :=
  ⟨id, location, .expression (.identifier name)⟩

end Node
end ContractTree
