import ContractTree.Tree.Equality

namespace ContractTree

/-!
# Trees with one subtree replaced

A route leads from the root of a tree to a node below it, and says at each node which
child comes next.  Replacing the node at its end changes nothing on the way but that
child.  An expression that consists of a type has no child for the name of the type; a
route may still lead there, and then it is the type that is replaced.

The tree that results is determined by the tree, the route and the new node.
-/

namespace Node

/-- Nodes that differ in their children only. -/
structure Parallel (first second : Node) : Prop where
  id_eq : second.id = first.id
  location_eq : second.location = first.location
  outline_eq : second.shape.outline = first.shape.outline

theorem parallel_iff {id other : NodeId} {location place : SourceLocation}
    {first second : Shape Node} :
    Parallel ⟨id, location, first⟩ ⟨other, place, second⟩ ↔
      other = id ∧ place = location ∧ second.outline = first.outline := by
  constructor
  · rintro ⟨ids, locations, outlines⟩
    exact ⟨ids, locations, outlines⟩
  · rintro ⟨ids, locations, outlines⟩
    exact ⟨ids, locations, outlines⟩

theorem Parallel.kind_eq {first second : Node} (parallel : first.Parallel second) :
    second.kind = first.kind := by
  have kinds := congrArg Shape.kind parallel.outline_eq
  rwa [Shape.outline, Shape.outline, Shape.kind_map, Shape.kind_map] at kinds

theorem Parallel.eq_of_children_eq {first second other : Node} (parallel : first.Parallel second)
    (parallel' : first.Parallel other) (children : second.children = other.children) :
    second = other := by
  rcases second with ⟨id, location, shape⟩
  rcases other with ⟨id', location', shape'⟩
  have ids : id = id' := parallel.id_eq.trans parallel'.id_eq.symm
  have locations : location = location' := parallel.location_eq.trans parallel'.location_eq.symm
  have shapes : shape = shape' :=
    Shape.eq_of_children_eq (parallel.outline_eq.trans parallel'.outline_eq.symm) children
  rw [ids, locations, shapes]

/-- A node stands in a tree at the end of a route, and has been replaced by another. -/
inductive Replaced (old new : Node) : List Nat → Node → Node → Prop where
  | here : Replaced old new [] old new
  | child {index : Nat} {route : List Nat} {before after child child' : Node}
    (parallel : before.Parallel after) (found : before.children[index]? = some child)
    (inside : Replaced old new route child child')
    (children : after.children = before.children.set index child') :
    Replaced old new (index :: route) before after
  /-- Only the type of the node is kept. -/
  | type {id : NodeId} {location : SourceLocation} {before after : ElementaryType}
    (was : old.elementaryType? = some before) (is : new.elementaryType? = some after) :
    Replaced old new [0] ⟨id, location, .expression (.elementaryTypeName before)⟩
      ⟨id, location, .expression (.elementaryTypeName after)⟩

/-- The nodes on the way keep their kind. -/
theorem Replaced.kind_eq {old new before after : Node} {route : List Nat}
    (replaced : Replaced old new route before after) (under : route ≠ []) :
    after.kind = before.kind := by
  cases replaced with
  | here => exact absurd rfl under
  | child parallel => exact parallel.kind_eq
  | type => rfl

/-- There is one tree that results. -/
theorem Replaced.unique {old old' new before after after' : Node} {route : List Nat}
    (replaced : Replaced old new route before after)
    (replaced' : Replaced old' new route before after') : after = after' := by
  induction replaced generalizing after' with
  | here =>
    cases replaced'
    rfl
  | @child index route before after child child' parallel found inside children ih =>
    cases replaced' with
    | child parallel' found' inside' children' =>
      cases found.symm.trans found'
      rw [ih inside'] at children
      exact parallel.eq_of_children_eq parallel' (children.trans children'.symm)
    | type => cases found
  | type was is =>
    cases replaced' with
    | child parallel found => cases found
    | type was' is' =>
      cases is.symm.trans is'
      rfl

end Node
end ContractTree
