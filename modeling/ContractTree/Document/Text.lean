import ContractTree.Document.Scalar
import ContractTree.Tree.Attribute
import ContractTree.Tree.Path

namespace ContractTree

/-!
# Reading texts

Where a document writes an operator, a literal or a type, its text stands for one
token of a certain class.  A text of another number of tokens is refused before
its class is looked at.  Attributes and type paths are texts with rules of their
own.
-/

namespace Token

/-- The token that a text writes. -/
def resolve (text : String) : Checked Token :=
  match scan text with
  | .ok token => .ok token
  | .error cause => .error (.token text (.scan cause))

/-- The token of a class that a text writes. -/
def resolveIn (expected : TokenClass) (text : String) : Checked Token := do
  let token ← resolve text
  if expected.accepts token then return token
  else throw (.token text (.wrongClass expected token))

/-- The elementary type that a text writes. -/
def resolveElementary (text : String) : Checked ElementaryType := do
  let token ← resolve text
  match token.elementaryType? with
  | some type => return type
  | none => throw (.token text (.wrongClass .elementary token))

theorem resolve_eq_ok_iff {text : String} {token : Token} :
    resolve text = .ok token ↔ scan text = .ok token := by
  unfold resolve
  split
  · next found read => rw [read, Except.ok.injEq, Except.ok.injEq]
  · next cause read => simp only [read, reduceCtorEq]

end Token

/-! ## Words -/

def Visibility.read (word : String) : Checked Visibility :=
  match ofText? word with
  | some visibility => .ok visibility
  | none => .error (.violation (.unknownVisibility word))

def StorageLocation.read (word : String) : Checked StorageLocation :=
  match ofText? word with
  | some location => .ok location
  | none => .error (.violation (.unknownStorageLocation word))

def ContractKind.read (word : String) : Checked ContractKind :=
  match ofText? word with
  | some kind => .ok kind
  | none => .error (.violation (.unknownContractKind word))

/-- The path that a name spells, none of its segments being empty. -/
def TypePath.read (name : String) : Checked (List String) :=
  if "" ∈ TypePath.ofName name then .error (.violation (.malformedPath name))
  else .ok (TypePath.ofName name)

end ContractTree
