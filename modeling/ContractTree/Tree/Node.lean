import ContractTree.Location
import ContractTree.Tree.Declaration
import ContractTree.Tree.TypeName
import ContractTree.Tree.Statement
import ContractTree.Tree.Expression

namespace ContractTree

/-!
# Trees

A tree is a node with its children in the places of its shape.  Places do not
restrict by their type which nodes they hold; that a tree keeps to the categories
of its places is a property of the tree.
-/

/-- What a node is, over the type of its children. -/
inductive Shape (α : Type) where
  | declaration (declaration : Declaration α)
  | typeName (typeName : TypeName α)
  | statement (statement : Statement α)
  | expression (expression : Expression α)
  deriving DecidableEq, Repr

namespace Shape

variable {α β : Type}

def kind : Shape α → NodeKind
  | declaration shape => shape.kind
  | typeName shape => shape.kind
  | statement shape => shape.kind
  | expression shape => shape.kind

/-- The places of a node in the order of traversal. -/
def parts : Shape α → List (Part α)
  | declaration shape => shape.parts
  | typeName shape => shape.parts
  | statement shape => shape.parts
  | expression shape => shape.parts

def map (f : α → β) : Shape α → Shape β
  | declaration shape => declaration (shape.map f)
  | typeName shape => typeName (shape.map f)
  | statement shape => statement (shape.map f)
  | expression shape => expression (shape.map f)

/-- The children of a node in the order of traversal. -/
def children (shape : Shape α) : List α := shape.parts.flatMap Part.children

/-- A shape without its children. -/
def outline (shape : Shape α) : Shape Unit := shape.map fun _ => ()

theorem kind_map (f : α → β) (shape : Shape α) : (shape.map f).kind = shape.kind := by
  cases shape <;> simp only [map, kind, Declaration.kind_map, TypeName.kind_map,
    Statement.kind_map, Expression.kind_map]

theorem parts_map (f : α → β) (shape : Shape α) :
    (shape.map f).parts = shape.parts.map (Part.map f) := by
  cases shape <;> simp only [map, parts, Declaration.parts_map, TypeName.parts_map,
    Statement.parts_map, Expression.parts_map]

theorem children_map (f : α → β) (shape : Shape α) :
    (shape.map f).children = shape.children.map f := by
  simp only [children, parts_map, List.flatMap_map, Part.children_map, List.map_flatMap]

theorem sizeOf_slot_le [SizeOf α] (shape : Shape α) :
    ∀ part ∈ shape.parts, sizeOf part.slot ≤ sizeOf shape := by
  intro part member
  cases shape with
  | declaration shape =>
    have smaller := shape.sizeOf_slot_le part member
    simp only [declaration.sizeOf_spec]
    omega
  | typeName shape =>
    have smaller := shape.sizeOf_slot_le part member
    simp only [typeName.sizeOf_spec]
    omega
  | statement shape =>
    have smaller := shape.sizeOf_slot_le part member
    simp only [statement.sizeOf_spec]
    omega
  | expression shape =>
    have smaller := shape.sizeOf_slot_le part member
    simp only [expression.sizeOf_spec]
    omega

theorem sizeOf_lt_of_mem_children [SizeOf α] {child : α} {shape : Shape α}
    (member : child ∈ shape.children) : sizeOf child < sizeOf shape := by
  obtain ⟨part, place, inside⟩ := List.mem_flatMap.1 member
  exact Nat.lt_of_lt_of_le (Slot.sizeOf_lt_of_mem_children inside)
    (shape.sizeOf_slot_le part place)

/-- Two shapes of one outline have the same places, as far as places go without
what they hold, so their children in order tell them apart. -/
theorem eq_of_outline_eq {first second : Shape α} (outlines : first.outline = second.outline)
    (same : first.parts = second.parts) : first = second := by
  cases first <;> cases second <;> simp only [outline, map, reduceCtorEq, declaration.injEq,
    typeName.injEq, statement.injEq, expression.injEq] at outlines
  · rw [Declaration.eq_of_map_eq outlines same]
  · rw [TypeName.eq_of_map_eq outlines same]
  · rw [Statement.eq_of_map_eq outlines same]
  · rw [Expression.eq_of_map_eq outlines same]

end Shape

structure Node where
  id : NodeId
  location : SourceLocation
  shape : Shape Node

namespace Node

def kind (node : Node) : NodeKind := node.shape.kind

def children (node : Node) : List Node := node.shape.children

theorem sizeOf_lt_of_mem_children {child node : Node} (member : child ∈ node.children) :
    sizeOf child < sizeOf node := by
  obtain ⟨id, location, shape⟩ := node
  have smaller : sizeOf child < sizeOf shape := Shape.sizeOf_lt_of_mem_children member
  simp only [mk.sizeOf_spec]
  omega

/-- The elementary type that a type name is. -/
def elementaryType? (node : Node) : Option ElementaryType :=
  match node.shape with
  | .typeName (.elementary type) => some type
  | _ => none

theorem elementaryType?_isSome (node : Node) :
    node.elementaryType?.isSome = Category.elementaryTypeName.accepts node.kind := by
  obtain ⟨id, location, shape⟩ := node
  cases shape with
  | typeName shape => cases shape <;> rfl
  | declaration shape => cases shape <;> rfl
  | statement shape =>
    cases shape with
    | loop condition body isDoWhile => cases isDoWhile <;> rfl
    | _ => rfl
  | expression shape => cases shape <;> rfl

end Node
end ContractTree
