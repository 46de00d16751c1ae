import ContractTree.Tree.Node

namespace ContractTree

/-!
# Traversal

A listing visits a node before its children and the children in the order of their
places.  It keeps of each node what identifies it: its kind, its identifier and its
span.  A node of a category that several kinds share counts as itself only; there
is no entry for the category.
-/

structure NodeSummary where
  kind : NodeKind
  id : NodeId
  span : Span
  deriving DecidableEq, Repr

namespace Node

def summary (node : Node) : NodeSummary :=
  ⟨node.kind, node.id, node.location.span⟩

/-- A node and all nodes below it, each before what is below it. -/
def preorder (node : Node) : List NodeSummary :=
  node.summary :: node.children.attach.flatMap fun ⟨child, _⟩ => child.preorder
termination_by sizeOf node
decreasing_by exact sizeOf_lt_of_mem_children (by assumption)

theorem preorder_eq (node : Node) :
    node.preorder = node.summary :: node.children.flatMap preorder := by
  rw [preorder, List.flatMap_subtype, List.unattach_attach]
  intros
  rfl

/-- The listing with the number of nodes above each node, which is `depth` for the
first. -/
def listing (depth : Nat) (node : Node) : List (Nat × NodeSummary) :=
  (depth, node.summary) :: node.children.attach.flatMap fun ⟨child, _⟩ => child.listing (depth + 1)
termination_by sizeOf node
decreasing_by exact sizeOf_lt_of_mem_children (by assumption)

theorem listing_eq (depth : Nat) (node : Node) :
    node.listing depth = (depth, node.summary) :: node.children.flatMap (listing (depth + 1)) := by
  rw [listing, List.flatMap_subtype, List.unattach_attach]
  intros
  rfl

/-- The number of nodes of a tree. -/
def count (node : Node) : Nat :=
  1 + node.children.attach.foldr (fun ⟨child, _⟩ total => child.count + total) 0
termination_by sizeOf node
decreasing_by exact sizeOf_lt_of_mem_children (by assumption)

theorem count_eq (node : Node) :
    node.count = 1 + node.children.foldr (fun child total => child.count + total) 0 := by
  rw [count, List.foldr_subtype, List.unattach_attach]
  intros
  rfl

/-- What holds of a node as soon as it holds of the children, holds of every node. -/
theorem induction {motive : Node → Prop}
    (step : ∀ node, (∀ child ∈ node.children, motive child) → motive node) (node : Node) :
    motive node :=
  step node fun child _member => induction step child
termination_by sizeOf node
decreasing_by exact sizeOf_lt_of_mem_children (by assumption)

theorem map_snd_listing (depth : Nat) (node : Node) :
    (node.listing depth).map Prod.snd = node.preorder := by
  induction node using Node.induction generalizing depth with
  | step node ih =>
    rw [listing_eq, preorder_eq, List.map_cons, List.map_flatMap]
    rw [List.flatMap_def, List.flatMap_def]
    congr 2
    exact List.map_congr_left fun child member => ih child member (depth + 1)

theorem count_eq_length_preorder (node : Node) : node.count = node.preorder.length := by
  induction node using Node.induction with
  | step node ih =>
    have counts : node.children.map count = node.children.map fun child => child.preorder.length :=
      List.map_congr_left ih
    rw [count_eq, preorder_eq, List.length_cons, List.length_flatMap, Nat.add_comm, ← counts,
      List.sum_eq_foldr, List.foldr_map]

end Node
end ContractTree
