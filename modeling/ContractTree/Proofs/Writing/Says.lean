import ContractTree.Form.Basic
import ContractTree.Proofs.Form.Yields
import ContractTree.Proofs.Writing.Fields

namespace ContractTree

/-!
# What a node says

A node that has been written answers the questions of its form.  This module says
how, from the node alone: a scalar is answered with its field, a child with what its
part holds, and a question about a key without a field with nothing.  Whatever
stands in older documents only, a written node does not have.

A form recovers a node if what the node says leads the form to the node.
-/

/-- Whether anything stands in a place. -/
def Slot.isPresent {α : Type} : Slot α → Bool
  | maybe child => child.isSome
  | _ => true

/-- What a node answers a question with. -/
inductive Node.Says (node : Node) : (field : Field) → field.Answer → Prop where
  | id : Says node .id node.id
  | idOrZero : Says node .idOrZero node.id
  | location : Says node .location node.location
  | locationOrWhole : Says node .locationOrWhole node.location
  | text {key : String} (text : String) (field : (key, some (.str text)) ∈ node.shape.scalars) :
    Says node (.text key) text
  | text? {key : String} (text : Option String) (field : textField key text ∈ node.shape.scalars) :
    Says node (.text? key) text
  | noText {key : String} (missing : key ∉ reserved ++ node.shape.keys) :
    Says node (.text? key) none
  | flag {key : String} (flag : Bool) (field : (key, some (.bool flag)) ∈ node.shape.scalars) :
    Says node (.flag key) flag
  | flag? {key : String} (flag : Option Bool)
    (field : (key, flag.map .bool) ∈ node.shape.scalars) : Says node (.flag? key) flag
  | documentation (text : Option String)
    (field : textField "documentation" text ∈ node.shape.scalars) : Says node .documentation text
  | typeText (text : String) (field : ("typeName", some (.str text)) ∈ node.shape.scalars) :
    Says node .typeText text
  | texts {key : String} (texts : List String)
    (field : (key, some (.arr (texts.map .str))) ∈ node.shape.scalars)
    (noTag : key ≠ "name" ∧ key ≠ "kind") : Says node (.texts key) texts
  | holds {key : String} (category : Category) (slot : Slot Node)
    (part : ⟨key, category, slot⟩ ∈ node.shape.plainParts) : Says node (.holds key) slot.isPresent
  | noObject {text : String} (field : ("typeName", some (.str text)) ∈ node.shape.scalars) :
    Says node (.holdsObject "typeName") false
  | references {operations : String} {references : List ExternalReference}
    (shape : node.shape = .statement (.inlineAssembly operations references)) :
    Says node .references references
  | child {key : String} {category : Category} (child : Node)
    (part : ⟨key, category, .one child⟩ ∈ node.shape.plainParts) :
    Says node (.child key category) child
  /-- A child that may be missing but is not. -/
  | present {key : String} {category : Category} (child : Node)
    (part : ⟨key, category, .maybe (some child)⟩ ∈ node.shape.plainParts) :
    Says node (.child key category) child
  | child? {key : String} {category : Category} (child : Option Node)
    (part : ⟨key, category, .maybe child⟩ ∈ node.shape.plainParts) :
    Says node (.child? key category) child
  /-- A child that is there in any case. -/
  | given {key : String} {category : Category} (child : Node)
    (part : ⟨key, category, .one child⟩ ∈ node.shape.plainParts) :
    Says node (.child? key category) (some child)
  | noChild {key : String} {category : Category} (missing : key ∉ reserved ++ node.shape.keys)
    (noTag : key ≠ "name" ∧ key ≠ "kind") : Says node (.child? key category) none
  | children {key : String} {category : Category} (children : List Node)
    (part : ⟨key, category, .many children⟩ ∈ node.shape.plainParts) :
    Says node (.children key category) children
  | gappedChildren {key : String} {category : Category} (children : List (Option Node))
    (part : ⟨key, category, .gapped children⟩ ∈ node.shape.plainParts) :
    Says node (.gappedChildren key category) children
  | aliases {path unitAlias : String} {aliases : List (SymbolAlias Node)}
    (shape : node.shape = .declaration (.importDirective path unitAlias aliases)) :
    Says node .aliases (aliases.map (SymbolAlias.map .inr))

/-- What a node says leads a form to the node. -/
abbrev Form.Recovers (form : Form Node) (node : Node) : Prop := form.Yields node.Says node

attribute [simp] Slot.isPresent reserved Fields.keys textField Shape.keys Shape.plainParts
  Shape.scalars Shape.parts

attribute [simp] Declaration.scalars Declaration.parts TypeName.scalars TypeName.parts
  Statement.scalars Statement.parts Expression.scalars Expression.parts

end ContractTree
