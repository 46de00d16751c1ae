import ContractTree.Tree.Category

namespace ContractTree

/-!
# Places for children

A node holds its children in places.  A place is known by its key, admits the
nodes of one category, and holds a child that must be there, one that may be
missing, a list of children, or a list with gaps.  The places of a node in order
determine its children and their order.
-/

inductive Slot (α : Type) where
  | one (child : α)
  | maybe (child : Option α)
  | many (children : List α)
  /-- A gap stands for a component that was left out. -/
  | gapped (children : List (Option α))
  deriving DecidableEq, Repr

namespace Slot

variable {α β : Type}

/-- The children in a place, gaps left out. -/
def children : Slot α → List α
  | one child => [child]
  | maybe child => child.toList
  | many children => children
  | gapped children => children.filterMap id

def map (f : α → β) : Slot α → Slot β
  | one child => one (f child)
  | maybe child => maybe (child.map f)
  | many children => many (children.map f)
  | gapped children => gapped (children.map (Option.map f))

theorem children_map (f : α → β) (slot : Slot α) :
    (slot.map f).children = slot.children.map f := by
  cases slot with
  | one child => rfl
  | maybe child => cases child <;> rfl
  | many items => rfl
  | gapped items =>
    simp only [map, children, List.filterMap_map, List.map_filterMap]
    rfl

theorem sizeOf_lt_of_mem_children [SizeOf α] {child : α} {slot : Slot α}
    (member : child ∈ slot.children) : sizeOf child < sizeOf slot := by
  cases slot with
  | one only =>
    cases List.mem_singleton.1 member
    simp only [one.sizeOf_spec]
    omega
  | maybe only =>
    cases only with
    | none => simp [children] at member
    | some only =>
      simp only [children, Option.toList_some, List.mem_singleton] at member
      subst member
      simp only [maybe.sizeOf_spec, Option.some.sizeOf_spec]
      omega
  | many items =>
    have smaller := List.sizeOf_lt_of_mem (show child ∈ items from member)
    simp only [many.sizeOf_spec]
    omega
  | gapped items =>
    simp only [children, List.mem_filterMap, id] at member
    obtain ⟨_, member, rfl⟩ := member
    have smaller := List.sizeOf_lt_of_mem member
    simp only [gapped.sizeOf_spec, Option.some.sizeOf_spec] at smaller ⊢
    omega

/-- A place is determined by its outline and its children. -/
theorem eq_of_map_eq {f : α → β} {first second : Slot α} (outline : first.map f = second.map f)
    (same : first.children = second.children) : first = second := by
  cases first <;> cases second <;> simp only [map, reduceCtorEq] at outline
  case one.one => simpa [children] using same
  case maybe.maybe first second =>
    cases first <;> cases second <;> simp_all [children]
  case many.many => simpa [children] using same
  case gapped.gapped first second =>
    simp only [gapped.injEq] at outline
    simp only [children] at same
    congr
    induction first generalizing second with
    | nil => simpa using outline
    | cons head rest ih =>
      cases second with
      | nil => simp at outline
      | cons head' rest' =>
        simp only [List.map_cons, List.cons.injEq] at outline
        cases head with
        | none =>
          cases head' with
          | none => rw [ih rest' (by simpa using same) outline.2]
          | some child' => simp at outline
        | some child =>
          cases head' with
          | none => simp at outline
          | some child' =>
            simp only [List.filterMap_cons, id, List.cons.injEq] at same
            rw [ih rest' same.2 outline.2, same.1]

end Slot

/-- A place of a node with what it holds. -/
structure Part (α : Type) where
  key : String
  category : Category
  slot : Slot α
  deriving DecidableEq, Repr

namespace Part

variable {α β : Type}

def children (part : Part α) : List α := part.slot.children

def map (f : α → β) (part : Part α) : Part β :=
  ⟨part.key, part.category, part.slot.map f⟩

theorem children_map (f : α → β) (part : Part α) :
    (part.map f).children = part.children.map f :=
  part.slot.children_map f

end Part
end ContractTree
