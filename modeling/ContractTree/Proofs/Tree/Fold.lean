import ContractTree.Tree.Equality

namespace ContractTree

/-!
# Folding trees

What is computed of a tree from the bottom up is a step on shapes whose children have
been computed already.  A fold does this with any step, and all that has to be known
of it is one equation, in which it is mapped over the shape of a node.
-/

section Compose

variable {α β γ : Type} (g : β → γ) (f : α → β)

theorem SymbolAlias.map_map (symbol : SymbolAlias α) :
    (symbol.map f).map g = symbol.map (g ∘ f) := rfl

theorem Declaration.map_map (shape : Declaration α) :
    (shape.map f).map g = shape.map (g ∘ f) := by
  cases shape <;> simp [map, Function.comp_def, SymbolAlias.map]

theorem TypeName.map_map (shape : TypeName α) : (shape.map f).map g = shape.map (g ∘ f) := by
  cases shape <;> simp [map]

theorem Statement.map_map (shape : Statement α) : (shape.map f).map g = shape.map (g ∘ f) := by
  cases shape <;> simp [map, Function.comp_def]

theorem Expression.map_map (shape : Expression α) : (shape.map f).map g = shape.map (g ∘ f) := by
  cases shape <;> simp [map, Function.comp_def]

theorem Shape.map_map (shape : Shape α) : (shape.map f).map g = shape.map (g ∘ f) := by
  cases shape with
  | declaration shape => exact congrArg declaration (shape.map_map g f)
  | typeName shape => exact congrArg typeName (shape.map_map g f)
  | statement shape => exact congrArg statement (shape.map_map g f)
  | expression shape => exact congrArg expression (shape.map_map g f)

end Compose

/-- What is mapped over a shape matters on its children only. -/
theorem Shape.map_congr {α β : Type} {f g : α → β} {shape : Shape α}
    (same : ∀ child ∈ shape.children, f child = g child) : shape.map f = shape.map g := by
  refine eq_of_children_eq ?_ ?_
  · rw [outline, outline, map_map, map_map]
    rfl
  · rw [children_map, children_map]
    exact List.map_congr_left same

namespace Node

theorem count_lt_of_mem_children {child node : Node} (member : child ∈ node.children) :
    child.count < node.count := by
  rw [count_eq node]
  generalize node.children = children at member
  induction children with
  | nil => cases member
  | cons first rest ih =>
    rw [List.foldr_cons]
    rcases List.mem_cons.1 member with rfl | later
    · omega
    · have smaller := ih later
      omega

variable {α : Type} [Inhabited α]

/-- Computes a value of a node from those of its children.  The test only serves the
recursion, and no child of a node fails it. -/
def fold (step : NodeId → SourceLocation → Shape α → α) (node : Node) : α :=
  step node.id node.location <| node.shape.map fun child =>
    if _smaller : child.count < node.count then fold step child else default
termination_by node.count

theorem fold_eq (step : NodeId → SourceLocation → Shape α → α) (node : Node) :
    node.fold step = step node.id node.location (node.shape.map (fold step)) := by
  rw [fold]
  congr 1
  exact Shape.map_congr fun child member => dif_pos (count_lt_of_mem_children member)

end Node
end ContractTree
