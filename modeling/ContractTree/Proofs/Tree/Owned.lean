import ContractTree.Proofs.Tree.Fields
import Mathlib.Algebra.BigOperators.Fin
import Mathlib.Data.Finite.Sigma
import Mathlib.Data.Fintype.Option
import Mathlib.SetTheory.Cardinal.NatCard

namespace ContractTree

/-!
# Listings are complete

A tree owns its root and what the nodes in the fields of its root own.  A listing has one
entry for each node that is owned, and so it is as long as there are nodes; it goes from a
node to the nodes in its fields, in the order of the fields unless the node is a function.
-/

open Traversable (toList)

/-- The nodes in the fields of a node, in the order of the fields. -/
def Shape.held {α : Type} : Shape α → List α
  | declaration shape => toList shape
  | typeName shape => toList shape
  | statement shape => toList shape
  | expression shape => toList shape

theorem Shape.children_perm {α : Type} (shape : Shape α) : shape.children.Perm shape.held := by
  cases shape with
  | declaration shape =>
    rw [children_declaration]
    exact shape.visited_perm
  | typeName shape => exact .of_eq (Shape.children_typeName shape)
  | statement shape => exact .of_eq (Shape.children_statement shape)
  | expression shape => exact .of_eq (Shape.children_expression shape)

namespace Node

/-- The nodes that a tree owns: its root, and those that are owned by one of the nodes in the
fields of the root. -/
inductive Owned : Node → Type where
  | root {node : Node} : Owned node
  | within {node : Node} (index : Fin node.shape.held.length)
    (owned : Owned node.shape.held[index]) : Owned node

namespace Owned

/-- What is owned besides the root is owned within one of the fields. -/
def split (node : Node) :
    Owned node ≃ Option (Σ index : Fin node.shape.held.length, Owned node.shape.held[index]) where
  toFun
    | root => none
    | within index owned => some ⟨index, owned⟩
  invFun
    | none => root
    | some ⟨index, owned⟩ => within index owned
  left_inv owned := by cases owned <;> rfl
  right_inv part := by
    cases part with
    | none => rfl
    | some inner => rfl

/-- A tree owns as many nodes as are counted. -/
theorem card_eq_count (node : Node) : Finite (Owned node) ∧ Nat.card (Owned node) = node.count := by
  induction node using Node.induction with
  | step node ih =>
    have inside : ∀ index : Fin node.shape.held.length, Finite (Owned node.shape.held[index]) ∧
        Nat.card (Owned node.shape.held[index]) = node.shape.held[index].count := fun index =>
      ih _ (node.shape.children_perm.mem_iff.2 (List.getElem_mem index.isLt))
    have finite : ∀ index : Fin node.shape.held.length, Finite (Owned node.shape.held[index]) :=
      fun index => (inside index).1
    refine ⟨Finite.of_equiv _ (split node).symm, ?_⟩
    have counts : node.count = 1 + (node.children.map count).sum := by
      rw [count_eq, List.sum_eq_foldr, List.foldr_map]
    have sums : (node.children.map count).sum = (node.shape.held.map count).sum :=
      (node.shape.children_perm.map count).sum_eq
    rw [Nat.card_congr (split node), Finite.card_option, Nat.card_sigma, counts, sums,
      ← Fin.sum_univ_fun_getElem, Nat.add_comm]
    exact congrArg (1 + ·) (Finset.sum_congr rfl fun index _ => (inside index).2)

end Owned

/-- The listing of a node. -/
theorem preorder_of_children {id : NodeId} {location : SourceLocation} {shape : Shape Node}
    {children : List Node} (listed : shape.children = children) :
    preorder ⟨id, location, shape⟩ =
      ⟨shape.kind, id, location.span⟩ :: children.flatMap preorder := by
  rw [preorder_eq, ← listed]
  rfl

/-- The listing of a node is its own kind, identifier and span, followed by the listings of
the nodes in its fields, each once and in the order of the fields.  Only the nodes of a
function come in another order.  What sort of node it is adds no entry, and the kind is that
of the shape within.  The nodes are counted as there are entries in the listing, which are as
many as the nodes that the tree owns. -/
theorem preorder_complete :
    (∀ id location (shape : Declaration Node),
      preorder ⟨id, location, .declaration shape⟩ =
          ⟨shape.kind, id, location.span⟩ :: shape.visited.flatMap preorder ∧
        shape.visited.Perm (toList shape)) ∧
    (∀ id location (shape : TypeName Node),
      preorder ⟨id, location, .typeName shape⟩ =
        ⟨shape.kind, id, location.span⟩ :: (toList shape).flatMap preorder) ∧
    (∀ id location (shape : Statement Node),
      preorder ⟨id, location, .statement shape⟩ =
        ⟨shape.kind, id, location.span⟩ :: (toList shape).flatMap preorder) ∧
    (∀ id location (shape : Expression Node),
      preorder ⟨id, location, .expression shape⟩ =
        ⟨shape.kind, id, location.span⟩ :: (toList shape).flatMap preorder) ∧
    ∀ node : Node, node.count = node.preorder.length ∧ node.count = Nat.card (Owned node) := by
  refine ⟨fun id location shape => ⟨?_, shape.visited_perm⟩, ?_, ?_, ?_, fun node =>
    ⟨node.count_eq_length_preorder, (Owned.card_eq_count node).2.symm⟩⟩
  · exact preorder_of_children (Shape.children_declaration shape)
  · exact fun id location shape => preorder_of_children (Shape.children_typeName shape)
  · exact fun id location shape => preorder_of_children (Shape.children_statement shape)
  · exact fun id location shape => preorder_of_children (Shape.children_expression shape)

end Node
end ContractTree
