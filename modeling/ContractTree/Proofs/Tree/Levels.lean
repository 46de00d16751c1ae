import ContractTree.Tree.Node

namespace ContractTree

/-!
# Levels of a tree

The root of a tree stands at level zero, and a child one level below its parent.  A
node below the root may also be found by going down to a child of the root first, and
this is how inductions over conversions go.
-/

namespace Node

/-- A node stands in the tree of a root, so many levels below it. -/
inductive Below (root : Node) : Nat → Node → Prop where
  | root : Below root 0 root
  | child {level : Nat} {parent child : Node} (above : Below root level parent)
      (member : child ∈ parent.children) : Below root (level + 1) child

variable {root child node : Node} {level : Nat}

/-- What is below a child is one level further below its parent. -/
theorem Below.under (below : child.Below level node) (member : child ∈ root.children) :
    root.Below (level + 1) node := by
  induction below with
  | root => exact .child .root member
  | child above inside ih => exact .child ih inside

/-- A node is the root or is below a child of the root. -/
theorem Below.cases_children (below : root.Below level node) :
    (level = 0 ∧ node = root) ∨
      ∃ child ∈ root.children, ∃ rest, level = rest + 1 ∧ child.Below rest node := by
  induction below with
  | root => exact .inl ⟨rfl, rfl⟩
  | @child above parent last below member ih =>
    rcases ih with ⟨rfl, rfl⟩ | ⟨first, inside, rest, rfl, under⟩
    · exact .inr ⟨last, member, 0, rfl, .root⟩
    · exact .inr ⟨first, inside, rest + 1, rfl, .child under member⟩

end Node
end ContractTree
