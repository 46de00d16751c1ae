import ContractTree.Proofs.Form.Faithful
import Mathlib.Data.List.Defs

namespace ContractTree

/-!
# Nodes that represent document nodes

A node represents the document node that it was made from if it has the kind of its
tag, the identifier and the location of its entry, the nodes of its places as
children, in their order, and keeps to the grammar.  The reads of its form convert
just these places, in this order.

All but a few kinds have their parts under the keys that the places are found under.
For these it is enough that each part stands in the document.
-/

structure Represents (settings : Settings) (depth : Nat) (document : DocumentNode)
    (node : Node) (reads : List Answered) : Prop where
  kind_eq : node.kind = document.kind
  id_eq : document.nodeId? = some node.id
  location_eq : document.location? settings = some node.location
  grammatical : node.Grammatical settings.source
  children_eq : (document.places settings.layout).flatMap
    (Place.nodes settings depth node.id node.location) = node.children
  converted_eq : (document.placesRead reads).filter Place.isConverted =
    (document.places settings.layout).filter Place.isConverted

/-- The reads of a form make a node that represents a document node. -/
abbrev Form.Represent (settings : Settings) (depth : Nat) (document : DocumentNode)
    (form : Form Node) : Prop :=
  form.Ensures (Field.Faithful settings depth document) (Represents settings depth document)

/-- A form, or a part of one, that asks about no place, with a property of what it
gives. -/
abbrev Form.Scalar {α : Type} (settings : Settings) (depth : Nat) (document : DocumentNode)
    (form : Form α) (good : α → Prop) : Prop :=
  form.Ensures (Field.Faithful settings depth document) fun result reads =>
    good result ∧ document.placesRead reads = []

namespace Represents

variable {settings : Settings} {depth : Nat} {document : DocumentNode} {node : Node}
  {reads : List Answered}

/-- A node represents a document node if its parts stand there under their keys. -/
theorem of_parts (kind : node.kind = document.kind) (id : document.nodeId? = some node.id)
    (location : document.location? settings = some node.location)
    (shape : node.shape.Grammatical settings.source)
    (stands : node.shape.parts.Forall (Part.Stands settings depth document))
    (places : document.places settings.layout =
      node.shape.parts.flatMap fun part => document.under part.key)
    (asked : document.placesRead reads =
      node.shape.parts.flatMap fun part => document.under part.key) :
    Represents settings depth document node reads := by
  have each := List.forall_iff_forall_mem.1 stands
  refine ⟨kind, id, location, ⟨DocumentNode.within_of_location? location, shape, ?_⟩, ?_, ?_⟩
  · intro part member child inside
    exact (each part member).accepted child inside
  · rw [places, List.flatMap_assoc]
    exact List.flatMap_congr fun part member =>
      (each part member).nodes_eq node.id node.location
  · rw [places, asked]

end Represents
end ContractTree
